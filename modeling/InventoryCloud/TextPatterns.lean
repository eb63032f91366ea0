import Mathlib.Computability.Language
import Mathlib.Tactic

/-!
# Text patterns

Regular expressions over character classes, with their language and a
matcher by derivatives.  `fullmatch` decides whether the whole of a text
belongs to the language of a pattern; an anchor at either end of a pattern
says nothing more in a match of the whole text.
-/

open Computability

inductive TextPattern where
  | nothing
  | blank
  | one (accepts : Char → Bool)
  | seq (first second : TextPattern)
  | either (first second : TextPattern)
  | many (body : TextPattern)

namespace TextPattern

def literal (text : String) : TextPattern :=
  text.toList.foldr (fun char rest => .seq (.one (· == char)) rest) .blank

def times : Nat → TextPattern → TextPattern
  | 0, _ => .blank
  | count + 1, body => .seq body (times count body)

def several (body : TextPattern) : TextPattern :=
  .seq body (.many body)

def optional (body : TextPattern) : TextPattern :=
  .either .blank body

def upTo : Nat → TextPattern → TextPattern
  | 0, _ => .blank
  | count + 1, body => optional (.seq body (upTo count body))

def anyOf : List TextPattern → TextPattern
  | [] => .nothing
  | first :: rest => .either first (anyOf rest)

/-- The patterns one after another. -/
def chain : List TextPattern → TextPattern
  | [] => .blank
  | first :: rest => .seq first (chain rest)

def language : TextPattern → Language Char
  | .nothing => 0
  | .blank => 1
  | .one accepts => {text | ∃ char, accepts char = true ∧ text = [char]}
  | .seq first second => first.language * second.language
  | .either first second => first.language + second.language
  | .many body => body.language∗

section Membership

variable (text : List Char)

@[simp] theorem mem_nothing : text ∈ language .nothing ↔ False := Iff.rfl

@[simp] theorem mem_blank : text ∈ language .blank ↔ text = [] := Iff.rfl

@[simp] theorem mem_one (accepts : Char → Bool) :
    text ∈ language (.one accepts) ↔
      ∃ char, accepts char = true ∧ text = [char] := Iff.rfl

theorem mem_seq (first second : TextPattern) :
    text ∈ language (.seq first second) ↔
      ∃ left ∈ first.language, ∃ right ∈ second.language,
        left ++ right = text :=
  Language.mem_mul

@[simp] theorem mem_either (first second : TextPattern) :
    text ∈ language (.either first second) ↔
      text ∈ first.language ∨ text ∈ second.language := Iff.rfl

theorem mem_many (body : TextPattern) :
    text ∈ language (.many body) ↔
      ∃ parts : List (List Char), text = parts.flatten ∧
        ∀ part ∈ parts, part ∈ body.language :=
  Language.mem_kstar

theorem mem_chain_cons (first : TextPattern) (rest : List TextPattern) :
    text ∈ (chain (first :: rest)).language ↔
      ∃ left ∈ first.language, ∃ right ∈ (chain rest).language,
        left ++ right = text :=
  mem_seq text first (chain rest)

theorem append_mem_chain {first : TextPattern} {rest : List TextPattern}
    {left right : List Char} (hleft : left ∈ first.language)
    (hright : right ∈ (chain rest).language) :
    left ++ right ∈ (chain (first :: rest)).language :=
  (mem_chain_cons _ first rest).mpr ⟨left, hleft, right, hright, rfl⟩

theorem nil_mem_chain : [] ∈ (chain []).language := rfl

@[simp] theorem mem_chain_nil : text ∈ (chain []).language ↔ text = [] :=
  Iff.rfl

@[simp] theorem mem_literal (word : String) :
    text ∈ (literal word).language ↔ text = word.toList := by
  unfold literal
  induction word.toList generalizing text with
  | nil => rfl
  | cons char rest ih =>
      rw [List.foldr_cons, mem_seq]
      constructor
      · rintro ⟨left, hleft, right, hright, rfl⟩
        obtain ⟨found, hfound, rfl⟩ := (mem_one left _).mp hleft
        rw [(ih right).mp hright, eq_of_beq hfound]
        rfl
      · rintro rfl
        exact ⟨[char], ⟨char, beq_self_eq_true char, rfl⟩, rest,
          (ih rest).mpr rfl, rfl⟩

theorem literal_mem (word : String) :
    word.toList ∈ (literal word).language :=
  (mem_literal _ word).mpr rfl

theorem mem_times_one (count : Nat) (accepts : Char → Bool) :
    text ∈ (times count (.one accepts)).language ↔
      text.length = count ∧ ∀ char ∈ text, accepts char = true := by
  induction count generalizing text with
  | zero =>
      rw [times, mem_blank]
      constructor
      · rintro rfl
        exact ⟨rfl, by simp⟩
      · intro h
        exact List.length_eq_zero_iff.mp h.1
  | succ count ih =>
      rw [times, mem_seq]
      constructor
      · rintro ⟨left, ⟨char, hchar, rfl⟩, right, hright, rfl⟩
        obtain ⟨hlength, haccepts⟩ := (ih right).mp hright
        refine ⟨by simp [hlength], ?_⟩
        intro other hother
        rcases List.mem_cons.mp hother with rfl | hother
        · exact hchar
        · exact haccepts other hother
      · rintro ⟨hlength, haccepts⟩
        cases text with
        | nil => simp at hlength
        | cons char rest =>
            have hrest : rest.length = count := by simpa using hlength
            exact ⟨[char], ⟨char, haccepts char (by simp), rfl⟩, rest,
              (ih rest).mpr ⟨hrest, fun other hother =>
                haccepts other (List.mem_cons_of_mem _ hother)⟩, rfl⟩

theorem mem_many_one (accepts : Char → Bool) :
    text ∈ language (.many (.one accepts)) ↔
      ∀ char ∈ text, accepts char = true := by
  rw [mem_many]
  constructor
  · rintro ⟨parts, rfl, hparts⟩ char hchar
    obtain ⟨part, hpart, hchar⟩ := List.mem_flatten.mp hchar
    obtain ⟨other, hother, rfl⟩ := hparts part hpart
    rw [List.mem_singleton.mp hchar]
    exact hother
  · intro haccepts
    refine ⟨text.map fun char => [char], ?_, ?_⟩
    · rw [← List.flatMap_def, List.flatMap_singleton']
    intro part hpart
    obtain ⟨char, hchar, rfl⟩ := List.mem_map.mp hpart
    exact ⟨char, haccepts char hchar, rfl⟩

theorem mem_several_one (accepts : Char → Bool) :
    text ∈ (several (.one accepts)).language ↔
      text ≠ [] ∧ ∀ char ∈ text, accepts char = true := by
  unfold several
  rw [mem_seq]
  constructor
  · rintro ⟨_, ⟨char, hchar, rfl⟩, right, hright, rfl⟩
    rw [mem_many_one] at hright
    exact ⟨List.cons_ne_nil _ _, List.forall_mem_cons.mpr ⟨hchar, hright⟩⟩
  · rintro ⟨hnonempty, haccepts⟩
    cases text with
    | nil => exact absurd rfl hnonempty
    | cons char rest =>
        obtain ⟨hchar, hrest⟩ := List.forall_mem_cons.mp haccepts
        exact ⟨[char], ⟨char, hchar, rfl⟩, rest,
          (mem_many_one rest accepts).mpr hrest, rfl⟩

end Membership

/-- Every character class of the pattern lies within `allowed`. -/
def Within (allowed : Char → Prop) : TextPattern → Prop
  | .nothing => True
  | .blank => True
  | .one accepts => ∀ char, accepts char = true → allowed char
  | .seq first second => first.Within allowed ∧ second.Within allowed
  | .either first second => first.Within allowed ∧ second.Within allowed
  | .many body => body.Within allowed

theorem Within.literal {allowed : Char → Prop} {word : String}
    (hword : ∀ char ∈ word.toList, allowed char) :
    (TextPattern.literal word).Within allowed := by
  unfold TextPattern.literal
  generalize word.toList = chars at hword ⊢
  induction chars with
  | nil => trivial
  | cons char rest ih =>
      have hrest : ∀ other ∈ rest, allowed other :=
        fun other hother => hword other (List.mem_cons_of_mem _ hother)
      refine ⟨?_, ih hrest⟩
      intro other hother
      have hsame : other = char := eq_of_beq hother
      rw [hsame]
      exact hword char List.mem_cons_self

/-- A class which does not accept `char` matches other characters only. -/
theorem Within.avoids {accepts : Char → Bool} {char : Char}
    (hchar : accepts char = false) :
    (TextPattern.one accepts).Within (· ≠ char) := by
  intro other hother hsame
  rw [hsame, hchar] at hother
  cases hother

theorem Within.times {allowed : Char → Prop} {body : TextPattern}
    (hbody : body.Within allowed) (count : Nat) :
    (TextPattern.times count body).Within allowed := by
  induction count with
  | zero => trivial
  | succ count ih => exact ⟨hbody, ih⟩

theorem Within.upTo {allowed : Char → Prop} {body : TextPattern}
    (hbody : body.Within allowed) (count : Nat) :
    (TextPattern.upTo count body).Within allowed := by
  induction count with
  | zero => trivial
  | succ count ih => exact ⟨trivial, hbody, ih⟩

/-- A matched text has characters of the pattern's classes only. -/
theorem Within.of_mem {allowed : Char → Prop} {pattern : TextPattern}
    (hpattern : pattern.Within allowed) {text : List Char}
    (htext : text ∈ pattern.language) : ∀ char ∈ text, allowed char := by
  induction pattern generalizing text with
  | nothing => exact absurd htext (Language.notMem_zero text)
  | blank =>
      rw [mem_blank] at htext
      simp [htext]
  | one accepts =>
      obtain ⟨char, hchar, rfl⟩ := htext
      intro other hother
      rw [List.mem_singleton.mp hother]
      exact hpattern char hchar
  | seq first second ihfirst ihsecond =>
      obtain ⟨left, hleft, right, hright, rfl⟩ := (mem_seq _ _ _).mp htext
      intro char hchar
      rcases List.mem_append.mp hchar with hchar | hchar
      · exact ihfirst hpattern.1 hleft char hchar
      · exact ihsecond hpattern.2 hright char hchar
  | either first second ihfirst ihsecond =>
      rcases htext with hleft | hright
      · exact ihfirst hpattern.1 hleft
      · exact ihsecond hpattern.2 hright
  | many body ih =>
      obtain ⟨parts, rfl, hparts⟩ := (mem_many _ _).mp htext
      intro char hchar
      obtain ⟨part, hpart, hchar⟩ := List.mem_flatten.mp hchar
      exact ih hpattern (hparts part hpart) char hchar

/-! ### The matcher -/

def acceptsBlank : TextPattern → Bool
  | .nothing => false
  | .blank => true
  | .one _ => false
  | .seq first second => first.acceptsBlank && second.acceptsBlank
  | .either first second => first.acceptsBlank || second.acceptsBlank
  | .many _ => true

/-- `seq`, with the trivial cases removed so that derivatives stay small. -/
def join : TextPattern → TextPattern → TextPattern
  | .nothing, _ => .nothing
  | .blank, second => second
  | first, second => .seq first second

def choose : TextPattern → TextPattern → TextPattern
  | .nothing, second => second
  | first, .nothing => first
  | first, second => .either first second

def derive (char : Char) : TextPattern → TextPattern
  | .nothing => .nothing
  | .blank => .nothing
  | .one accepts => if accepts char then .blank else .nothing
  | .seq first second =>
      choose (join (first.derive char) second)
        (if first.acceptsBlank then second.derive char else .nothing)
  | .either first second => choose (first.derive char) (second.derive char)
  | .many body => join (body.derive char) (.many body)

def fullmatch (pattern : TextPattern) : List Char → Bool
  | [] => pattern.acceptsBlank
  | char :: rest => (pattern.derive char).fullmatch rest

theorem language_join (first second : TextPattern) :
    (join first second).language = first.language * second.language := by
  cases first with
  | nothing => exact (zero_mul second.language).symm
  | blank => exact (one_mul second.language).symm
  | _ => rfl

theorem language_choose (first second : TextPattern) :
    (choose first second).language = first.language + second.language := by
  cases first with
  | nothing => exact (zero_add second.language).symm
  | _ =>
      cases second with
      | nothing => exact (add_zero _).symm
      | _ => rfl

theorem acceptsBlank_iff (pattern : TextPattern) :
    pattern.acceptsBlank = true ↔ [] ∈ pattern.language := by
  induction pattern with
  | nothing => simp [acceptsBlank]
  | blank => simp [acceptsBlank]
  | one accepts => simp [acceptsBlank]
  | seq first second ihfirst ihsecond =>
      rw [acceptsBlank, Bool.and_eq_true, ihfirst, ihsecond, mem_seq]
      constructor
      · rintro ⟨hfirst, hsecond⟩
        exact ⟨[], hfirst, [], hsecond, rfl⟩
      · rintro ⟨left, hleft, right, hright, hblank⟩
        obtain ⟨rfl, rfl⟩ := List.append_eq_nil_iff.mp hblank
        exact ⟨hleft, hright⟩
  | either first second ihfirst ihsecond =>
      rw [acceptsBlank, Bool.or_eq_true, ihfirst, ihsecond, mem_either]
  | many body ih => simp [acceptsBlank, language, Language.nil_mem_kstar]

/-- A nonempty text matches a repetition exactly when it starts with a
nonempty match of the body and goes on with the repetition. -/
theorem cons_mem_many (body : TextPattern) (char : Char) (rest : List Char) :
    char :: rest ∈ language (.many body) ↔
      ∃ left right, rest = left ++ right ∧ char :: left ∈ body.language ∧
        right ∈ language (.many body) := by
  constructor
  · intro hmem
    obtain ⟨parts, hparts, hbody⟩ :=
      (Language.mem_kstar_iff_exists_nonempty).mp hmem
    cases parts with
    | nil => simp at hparts
    | cons part others =>
        obtain ⟨hpart, hnonempty⟩ := hbody part (by simp)
        cases part with
        | nil => exact absurd rfl hnonempty
        | cons first left =>
            obtain ⟨rfl, rfl⟩ := List.cons.inj hparts
            exact ⟨left, others.flatten, rfl, hpart,
              (mem_many _ _).mpr ⟨others, rfl, fun other hother =>
                (hbody other (List.mem_cons_of_mem _ hother)).1⟩⟩
  · rintro ⟨left, right, rfl, hleft, hright⟩
    obtain ⟨parts, rfl, hparts⟩ := (mem_many _ _).mp hright
    apply (mem_many _ _).mpr
    refine ⟨(char :: left) :: parts, rfl, ?_⟩
    intro part hpart
    rcases List.mem_cons.mp hpart with rfl | hpart
    · exact hleft
    · exact hparts part hpart

theorem mem_derive (char : Char) (pattern : TextPattern) (rest : List Char) :
    rest ∈ (pattern.derive char).language ↔
      char :: rest ∈ pattern.language := by
  induction pattern generalizing rest with
  | nothing => simp [derive]
  | blank => simp [derive]
  | one accepts =>
      rw [derive, mem_one]
      split_ifs with haccepts
      · rw [mem_blank]
        constructor
        · rintro rfl
          exact ⟨char, haccepts, rfl⟩
        · rintro ⟨_, -, hsame⟩
          exact (List.cons.inj hsame).2
      · simp [haccepts]
  | seq first second ihfirst ihsecond =>
      rw [derive, language_choose, language_join, mem_seq, Language.mem_add,
        Language.mem_mul]
      constructor
      · rintro (⟨left, hleft, right, hright, rfl⟩ | hsecond)
        · exact ⟨char :: left, (ihfirst left).mp hleft, right, hright, rfl⟩
        · split_ifs at hsecond with hblank
          · exact ⟨[], (acceptsBlank_iff first).mp hblank, char :: rest,
              (ihsecond rest).mp hsecond, rfl⟩
          · exact absurd hsecond (Language.notMem_zero rest)
      · rintro ⟨left, hleft, right, hright, hsame⟩
        cases left with
        | nil =>
            right
            rw [List.nil_append] at hsame
            rw [if_pos ((acceptsBlank_iff first).mpr hleft), ihsecond,
              ← hsame]
            exact hright
        | cons head tail =>
            left
            obtain ⟨rfl, rfl⟩ := List.cons.inj hsame
            exact ⟨tail, (ihfirst tail).mpr hleft, right, hright, rfl⟩
  | either first second ihfirst ihsecond =>
      rw [derive, language_choose, Language.mem_add, ihfirst, ihsecond,
        mem_either]
  | many body ih =>
      rw [derive, language_join, cons_mem_many, Language.mem_mul]
      constructor
      · rintro ⟨left, hleft, right, hright, rfl⟩
        exact ⟨left, right, rfl, (ih left).mp hleft, hright⟩
      · rintro ⟨left, right, rfl, hleft, hright⟩
        exact ⟨left, (ih left).mpr hleft, right, hright, rfl⟩

theorem fullmatch_iff (pattern : TextPattern) (text : List Char) :
    pattern.fullmatch text = true ↔ text ∈ pattern.language := by
  induction text generalizing pattern with
  | nil => exact acceptsBlank_iff pattern
  | cons char rest ih => rw [fullmatch, ih, mem_derive]

end TextPattern

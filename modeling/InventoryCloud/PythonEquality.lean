import InventoryCloud.PythonValues

/-!
# Equality of JSON values in Python

`==` on what `json.loads` returned.  Numbers are compared by value, `True` and
`False` among them; objects are compared as dictionaries, without regard to
the order of their members.
-/

namespace Python

open JsonValue

/-- The number that a value stands for in a comparison. -/
def number : JsonValue → Option Rat
  | .bool value => some (if value then 1 else 0)
  | .integer value => some value
  | .decimal value => some value
  | _ => none

mutual

/-- `first == second` -/
def equal : JsonValue → JsonValue → Bool
  | .array items, .array others => equalItems items others
  | .object members, .object others =>
      (names members).length == (names others).length &&
        equalMembers members others
  | .string text, .string other => text == other
  | .null, .null => true
  | .nonFinite name, .nonFinite other => name != .nan && decide (name = other)
  | first, second =>
      match number first, number second with
      | some value, some other => value == other
      | _, _ => false

def equalItems : List JsonValue → List JsonValue → Bool
  | [], [] => true
  | item :: rest, other :: others => equal item other && equalItems rest others
  | _, _ => false

/-- Every member that counts has an equal one in `others`. -/
def equalMembers : Members → Members → Bool
  | [], _ => true
  | (name, value) :: rest, others =>
      ((lookup name rest).isSome ||
          (lookup name others).any fun other => equal value other) &&
        equalMembers rest others

end

@[simp] theorem equal_string (text other : String) :
    equal (.string text) (.string other) = (text == other) := by
  simp [equal]

@[simp] theorem equal_null : equal .null .null = true := by
  simp [equal]

@[simp] theorem equal_integer (value other : Int) :
    equal (.integer value) (.integer other) = decide (value = other) := by
  simp [equal, number, beq_eq_decide]

theorem lookup_append (key : String) (first second : Members) :
    lookup key (first ++ second) =
      (lookup key second).or (lookup key first) := by
  induction first with
  | nil => simp
  | cons member rest ih =>
      obtain ⟨name, value⟩ := member
      rw [List.cons_append, lookup_cons, lookup_cons, ih, Option.or_assoc]

/-- An object equals itself when all its values do. -/
theorem equal_object_self {members : Members}
    (hvalues : ∀ member ∈ members, equal member.2 member.2 = true) :
    equal (.object members) (.object members) = true := by
  have hsuffix : ∀ front back, members = front ++ back →
      equalMembers back members = true := by
    intro front back
    induction back generalizing front with
    | nil => simp [equalMembers]
    | cons member rest ih =>
        intro hsplit
        obtain ⟨name, value⟩ := member
        have hrest := ih (front ++ [(name, value)]) (by simp [hsplit])
        rw [equalMembers, hrest, Bool.and_true, Bool.or_eq_true]
        cases hlater : lookup name rest with
        | some other => simp
        | none =>
            have hfound : lookup name members = some value := by
              simp [hsplit, lookup_append, lookup_cons, hlater]
            have hself := hvalues (name, value) (by simp [hsplit])
            simp [hfound, hself]
  rw [equal, hsuffix [] members rfl, Bool.and_true, beq_iff_eq]

end Python

import Mathlib.Data.Rat.Defs
import Mathlib.Tactic

/-!
# JSON values

A value as a JSON reader delivers it: the members of an object are the pairs
of the text, in order, and a lookup returns the last of several members with
one name.  A number written without fraction and exponent is kept apart from
every other number, for the readers which tell the two apart.
-/

/-- The numbers outside JSON which some readers accept all the same. -/
inductive NonFinite where
  | nan
  | infinity
  | negativeInfinity
  deriving DecidableEq

inductive JsonValue where
  | null
  | bool (value : Bool)
  | integer (value : Int)
  | decimal (value : Rat)
  | nonFinite (name : NonFinite)
  | string (text : String)
  | array (items : List JsonValue)
  | object (members : List (String × JsonValue))

namespace JsonValue

abbrev Members := List (String × JsonValue)

/-- The value of the last member called `key`. -/
def lookup (key : String) : Members → Option JsonValue
  | [] => none
  | (name, value) :: rest =>
      match lookup key rest with
      | some found => some found
      | none => if name = key then some value else none

def member (key : String) : JsonValue → Option JsonValue
  | .object members => lookup key members
  | _ => none

/-- The member names, each once, in the order of their first occurrence. -/
def names (members : Members) : List String :=
  (members.map Prod.fst).reverse.dedup.reverse

@[simp] theorem member_object (key : String) (members : Members) :
    member key (.object members) = lookup key members := rfl

@[simp] theorem lookup_nil (key : String) : lookup key [] = none := rfl

theorem lookup_cons (key name : String) (value : JsonValue)
    (rest : Members) :
    lookup key ((name, value) :: rest) =
      (lookup key rest).or (if name = key then some value else none) := by
  rw [lookup]
  cases lookup key rest <;> rfl

theorem nodup_names (members : Members) : (names members).Nodup :=
  List.nodup_reverse.mpr (List.nodup_dedup _)

theorem lookup_isSome_iff (key : String) (members : Members) :
    (lookup key members).isSome = true ↔ key ∈ members.map Prod.fst := by
  induction members with
  | nil => simp
  | cons member rest ih =>
      obtain ⟨name, value⟩ := member
      rw [lookup_cons, Option.isSome_or, Bool.or_eq_true, ih, List.map_cons,
        List.mem_cons, or_comm]
      apply or_congr_left
      by_cases hname : name = key
      · simp [hname]
      · simp [hname, Ne.symm hname]

theorem mem_names {key : String} {members : Members} :
    key ∈ names members ↔ (lookup key members).isSome = true := by
  rw [names, List.mem_reverse, List.mem_dedup, List.mem_reverse,
    lookup_isSome_iff]

instance decidableEqString (value : JsonValue) (text : String) :
    Decidable (value = .string text) :=
  match value with
  | .string other => decidable_of_iff (other = text) (by simp)
  | .null => isFalse (by simp)
  | .bool _ => isFalse (by simp)
  | .integer _ => isFalse (by simp)
  | .decimal _ => isFalse (by simp)
  | .nonFinite _ => isFalse (by simp)
  | .array _ => isFalse (by simp)
  | .object _ => isFalse (by simp)

instance decidableEqInteger (value : JsonValue) (number : Int) :
    Decidable (value = .integer number) :=
  match value with
  | .integer other => decidable_of_iff (other = number) (by simp)
  | .null => isFalse (by simp)
  | .bool _ => isFalse (by simp)
  | .string _ => isFalse (by simp)
  | .decimal _ => isFalse (by simp)
  | .nonFinite _ => isFalse (by simp)
  | .array _ => isFalse (by simp)
  | .object _ => isFalse (by simp)

instance decidableEqNoItems (value : JsonValue) :
    Decidable (value = .array []) :=
  match value with
  | .array items => decidable_of_iff (items = []) (by simp)
  | .null => isFalse (by simp)
  | .bool _ => isFalse (by simp)
  | .integer _ => isFalse (by simp)
  | .string _ => isFalse (by simp)
  | .decimal _ => isFalse (by simp)
  | .nonFinite _ => isFalse (by simp)
  | .object _ => isFalse (by simp)

/-! ### Numbers by value -/

mutual

/-- The value with every whole number written without fraction and
exponent. -/
def integral : JsonValue → JsonValue
  | .decimal value =>
      if value.den = 1 then .integer value.num else .decimal value
  | .array items => .array (integralItems items)
  | .object members => .object (integralMembers members)
  | .null => .null
  | .bool value => .bool value
  | .integer value => .integer value
  | .nonFinite name => .nonFinite name
  | .string text => .string text

def integralItems : List JsonValue → List JsonValue
  | [] => []
  | item :: rest => item.integral :: integralItems rest

def integralMembers : Members → Members
  | [] => []
  | (name, value) :: rest => (name, value.integral) :: integralMembers rest

end

theorem lookup_integralMembers (key : String) (members : Members) :
    lookup key (integralMembers members) =
      (lookup key members).map integral := by
  induction members with
  | nil => rfl
  | cons member rest ih =>
      obtain ⟨name, value⟩ := member
      rw [integralMembers, lookup_cons, lookup_cons, ih]
      by_cases hname : name = key
      · cases lookup key rest <;> simp [hname]
      · simp [hname]

theorem member_integral {key : String} {value found : JsonValue}
    (hmember : value.member key = some found) :
    value.integral.member key = some found.integral := by
  cases value with
  | object members =>
      rw [member_object] at hmember
      rw [integral, member_object, lookup_integralMembers, hmember]
      rfl
  | _ => cases hmember

/-! ### Reading with a hook

A reader may hand the members of every object to a hook, innermost objects
first, and take what the hook returns in the place of the object. -/

section Hook

variable {E : Type} (hook : Members → Except E JsonValue)

mutual

def withHook : JsonValue → Except E JsonValue
  | .array items => do
      let read ← itemsWithHook items
      pure (.array read)
  | .object members => do
      let read ← membersWithHook members
      hook read
  | .null => pure .null
  | .bool value => pure (.bool value)
  | .integer value => pure (.integer value)
  | .decimal value => pure (.decimal value)
  | .nonFinite name => pure (.nonFinite name)
  | .string text => pure (.string text)

def itemsWithHook : List JsonValue → Except E (List JsonValue)
  | [] => pure []
  | item :: rest => do
      let first ← item.withHook
      let others ← itemsWithHook rest
      pure (first :: others)

def membersWithHook : Members → Except E Members
  | [] => pure []
  | (name, value) :: rest => do
      let first ← value.withHook
      let others ← membersWithHook rest
      pure ((name, first) :: others)

end

/-! A reader that recurses has a number of levels left where it is called: an
array or object takes one of them until it is closed, and a call of the hook
takes some of those that are left then. -/

variable (exceeded : E) (taken : Members → Nat)

mutual

def withHookWithin : JsonValue → Nat → Except E JsonValue
  | .array _, 0 => .error exceeded
  | .array items, levels + 1 => do
      let read ← itemsWithHookWithin items levels
      pure (.array read)
  | .object _, 0 => .error exceeded
  | .object members, levels + 1 => do
      let read ← membersWithHookWithin members levels
      if taken read ≤ levels then hook read else .error exceeded
  | .null, _ => pure .null
  | .bool value, _ => pure (.bool value)
  | .integer value, _ => pure (.integer value)
  | .decimal value, _ => pure (.decimal value)
  | .nonFinite name, _ => pure (.nonFinite name)
  | .string text, _ => pure (.string text)

def itemsWithHookWithin :
    List JsonValue → Nat → Except E (List JsonValue)
  | [], _ => pure []
  | item :: rest, levels => do
      let first ← item.withHookWithin levels
      let others ← itemsWithHookWithin rest levels
      pure (first :: others)

def membersWithHookWithin : Members → Nat → Except E Members
  | [], _ => pure []
  | (name, value) :: rest, levels => do
      let first ← value.withHookWithin levels
      let others ← membersWithHookWithin rest levels
      pure ((name, first) :: others)

end

end Hook

end JsonValue

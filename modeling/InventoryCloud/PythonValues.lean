import InventoryCloud.JsonValues
import InventoryCloud.Outcomes
import InventoryCloud.TextPatterns
import Mathlib.Data.List.DropRight

/-!
# JSON values in Python

What Python's operators and methods do with a value that `json.loads`
returned, whichever type it turns out to have: the result, or the exception
they raise.
-/

/-- The exceptions a script can meet; `own` are those it defines itself. -/
inductive PythonError (Own : Type) where
  | keyError
  | typeError
  | valueError
  | indexError
  | attributeError
  | osError
  | recursionError
  | otherError
  | own (error : Own)

namespace Python

open JsonValue

variable {Own : Type}

/-- `value[key]` for a text key. -/
def subscript (key : String) : JsonValue → Except (PythonError Own) JsonValue
  | .object members =>
      match lookup key members with
      | some value => .ok value
      | none => .error .keyError
  | _ => .error .typeError

/-- `value[index]`; an object read from JSON has no integer keys. -/
def item (index : Nat) : JsonValue → Except (PythonError Own) JsonValue
  | .array items =>
      match items[index]? with
      | some value => .ok value
      | none => .error .indexError
  | .string text =>
      match text.toList[index]? with
      | some char => .ok (.string (String.ofList [char]))
      | none => .error .indexError
  | .object _ => .error .keyError
  | _ => .error .typeError

def len : JsonValue → Except (PythonError Own) Nat
  | .array items => .ok items.length
  | .object members => .ok (names members).length
  | .string text => .ok text.toList.length
  | _ => .error .typeError

/-- `value.get(key, missing)` -/
def getOr (key : String) (missing : JsonValue) :
    JsonValue → Except (PythonError Own) JsonValue
  | .object members => .ok ((lookup key members).getD missing)
  | _ => .error .attributeError

/-- The values a `for` loop over the value goes through. -/
def iterate : JsonValue → Except (PythonError Own) (List JsonValue)
  | .array items => .ok items
  | .object members => .ok ((names members).map .string)
  | .string text =>
      .ok (text.toList.map fun char => .string (String.ofList [char]))
  | _ => .error .typeError

/-- `text in value`: an item of a list, a key of an object or a part of a
text. -/
def isIn (text : String) : JsonValue → Except (PythonError Own) Bool
  | .array items => .ok (items.any fun item => decide (item = .string text))
  | .object members => .ok (lookup text members).isSome
  | .string whole => .ok (decide (text.toList <:+: whole.toList))
  | _ => .error .typeError

/-- `value.values()` -/
def values : JsonValue → Except (PythonError Own) (List JsonValue)
  | .object members =>
      .ok ((names members).map fun name => (lookup name members).getD .null)
  | _ => .error .attributeError

/-- `bool(value)` -/
def truthy : JsonValue → Bool
  | .null => false
  | .bool value => value
  | .integer value => value != 0
  | .decimal value => value != 0
  | .nonFinite _ => true
  | .string text => text != ""
  | .array items => !items.isEmpty
  | .object members => !members.isEmpty

/-- `any(test(item) for item in items)`, which stops at the first item that
passes. -/
def anyOf {α : Type} (test : α → Except (PythonError Own) Bool) :
    List α → Except (PythonError Own) Bool
  | [] => .ok false
  | item :: rest => do
      let passed ← test item
      if passed then .ok true else anyOf test rest

/-- `pattern.fullmatch(value)`, which takes a text only. -/
def fullmatch (pattern : TextPattern) :
    JsonValue → Except (PythonError Own) Bool
  | .string text => .ok (pattern.fullmatch text.toList)
  | _ => .error .typeError

/-- The first characters of `str(value)` for the values that are no text:
`None`, `True`, `False`, `nan`, `inf`, a number, a list or an object. -/
def otherFirstChars : List Char :=
  ['N', 'T', 'F', 'n', 'i', '-', '[', '{',
    '0', '1', '2', '3', '4', '5', '6', '7', '8', '9']

/-- The functions of Python's library which read and write texts. -/
structure Library (Own : Type) where
  loads : String → Except (PythonError Own) JsonValue
  loadsBytes : List UInt8 → Except (PythonError Own) JsonValue
  /-- `hashlib.sha256(raw).hexdigest()` -/
  sha256 : List UInt8 → String
  str : JsonValue → String
  str_string : ∀ text, str (.string text) = text
  str_other : ∀ value, (∀ text, value ≠ .string text) →
    ∃ first rest, (str value).toList = first :: rest ∧
      first ∈ otherFirstChars

/-- The characters `str.strip` and `str.split` take for whitespace. -/
def isSpace (char : Char) : Bool :=
  char.toNat ∈ [0x9, 0xa, 0xb, 0xc, 0xd, 0x1c, 0x1d, 0x1e, 0x1f, 0x20, 0x85,
    0xa0, 0x1680, 0x2000, 0x2001, 0x2002, 0x2003, 0x2004, 0x2005, 0x2006,
    0x2007, 0x2008, 0x2009, 0x200a, 0x2028, 0x2029, 0x202f, 0x205f, 0x3000]

def strip (text : String) : String :=
  String.ofList ((text.toList.dropWhile isSpace).rdropWhile isSpace)

/-- `text.split()`: the parts between runs of whitespace. -/
def split (text : String) : List String :=
  ((text.toList.splitOnP isSpace).filter fun part => part ≠ []).map
    String.ofList

/-- The zero of each block of ten decimal digits of Unicode. -/
def decimalZeros : List Nat :=
  [0x30, 0x660, 0x6f0, 0x7c0, 0x966, 0x9e6, 0xa66, 0xae6, 0xb66, 0xbe6, 0xc66,
    0xce6, 0xd66, 0xde6, 0xe50, 0xed0, 0xf20, 0x1040, 0x1090, 0x17e0, 0x1810,
    0x1946, 0x19d0, 0x1a80, 0x1a90, 0x1b50, 0x1bb0, 0x1c40, 0x1c50, 0xa620,
    0xa8d0, 0xa900, 0xa9d0, 0xa9f0, 0xaa50, 0xabf0, 0xff10, 0x104a0, 0x10d30,
    0x11066, 0x110f0, 0x11136, 0x111d0, 0x112f0, 0x11450, 0x114d0, 0x11650,
    0x116c0, 0x11730, 0x118e0, 0x11950, 0x11c50, 0x11d50, 0x11da0, 0x11f50,
    0x16a60, 0x16ac0, 0x16b50, 0x1d7ce, 0x1d7d8, 0x1d7e2, 0x1d7ec, 0x1d7f6,
    0x1e140, 0x1e2f0, 0x1e4f0, 0x1e950, 0x1fbf0]

/-- What `\d` matches in a text pattern. -/
def isDecimalDigit (char : Char) : Bool :=
  decimalZeros.any fun start =>
    start ≤ char.toNat && char.toNat < start + 10

export Outcome (bind_ok bind_error ok_bind throw_bind guard_ok throw_ne_ok
  pure_ok)

theorem subscript_ok {key : String} {value found : JsonValue} :
    (subscript key value : Except (PythonError Own) JsonValue) = .ok found ↔
      value.member key = some found := by
  cases value with
  | object members =>
      rw [subscript, member_object]
      cases lookup key members <;> simp
  | _ => simp [subscript, member]

/-- A value of length one whose item 0 can be read is a list or a text. -/
theorem item_of_len_one {value found : JsonValue}
    (hlen : (len value : Except (PythonError Own) Nat) = .ok 1)
    (hitem : (item 0 value : Except (PythonError Own) JsonValue) =
      .ok found) :
    value = .array [found] ∨ ∃ text, found = .string text := by
  cases value with
  | array items =>
      left
      have hlength : items.length = 1 := by simpa [len] using hlen
      obtain ⟨only, rfl⟩ := List.length_eq_one_iff.mp hlength
      have honly : only = found := by simpa [item] using hitem
      rw [honly]
  | string text =>
      right
      unfold item at hitem
      cases hchar : text.toList[0]? with
      | none => simp [hchar] at hitem
      | some char =>
          have hfound : JsonValue.string (String.ofList [char]) = found := by
            simpa [hchar] using hitem
          exact ⟨_, hfound.symm⟩
  | _ => simp [item] at hitem

theorem isIn_array {text : String} {items : List JsonValue} :
    (isIn text (.array items) : Except (PythonError Own) Bool) = .ok true ↔
      .string text ∈ items := by
  simp [isIn]

theorem fullmatch_ok {pattern : TextPattern} {value : JsonValue} :
    (fullmatch pattern value : Except (PythonError Own) Bool) = .ok true ↔
      ∃ text, value = .string text ∧
        text.toList ∈ pattern.language := by
  cases value with
  | string text => simp [fullmatch, TextPattern.fullmatch_iff]
  | _ => simp [fullmatch]

end Python

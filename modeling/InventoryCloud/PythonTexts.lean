import InventoryCloud.PythonValues

/-!
# Texts and numbers in Python

Decoding of bytes, the lines of a text, and what `int` reads.
-/

namespace Python

variable {Own : Type}

/-- `data.decode()` -/
def decode (data : List UInt8) : Except (PythonError Own) String :=
  match String.fromUTF8? ⟨data.toArray⟩ with
  | some text => .ok text
  | none => .error .valueError

/-- The characters at which `str.splitlines` breaks a text. -/
def isLineBreak (char : Char) : Bool :=
  char.toNat ∈ [0xa, 0xb, 0xc, 0xd, 0x1c, 0x1d, 0x1e, 0x85, 0x2028, 0x2029]

def linesFrom (line : List Char) : List Char → List (List Char)
  | [] => if line = [] then [] else [line]
  | '\r' :: '\n' :: rest => line :: linesFrom [] rest
  | char :: rest =>
      if isLineBreak char then line :: linesFrom [] rest
      else linesFrom (line ++ [char]) rest

def splitlines (text : String) : List String :=
  (linesFrom [] text.toList).map String.ofList

/-- `text.replace(old, new)` for a single character. -/
def replaceChar (old : Char) (new text : String) : String :=
  String.ofList (text.toList.flatMap fun char =>
    if char = old then new.toList else [char])

/-- The digits of Unicode which are no decimal digits: the first and the last
of each block. -/
def otherDigits : List (Nat × Nat) :=
  [(0xb2, 0xb3), (0xb9, 0xb9), (0x1369, 0x1371), (0x19da, 0x19da),
    (0x2070, 0x2070), (0x2074, 0x2079), (0x2080, 0x2089), (0x2460, 0x2468),
    (0x2474, 0x247c), (0x2488, 0x2490), (0x24ea, 0x24ea), (0x24f5, 0x24fd),
    (0x24ff, 0x24ff), (0x2776, 0x277e), (0x2780, 0x2788), (0x278a, 0x2792),
    (0x10a40, 0x10a43), (0x10e60, 0x10e68), (0x11052, 0x1105a),
    (0x1f100, 0x1f10a)]

/-- `text.isdigit()` -/
def isdigit (text : String) : Bool :=
  text != "" && text.toList.all fun char =>
    isDecimalDigit char || otherDigits.any fun (first, last) =>
      first ≤ char.toNat && char.toNat ≤ last

/-- The value of a decimal digit. -/
def digitValue (char : Char) : Nat :=
  match decimalZeros.find? fun start =>
      start ≤ char.toNat && char.toNat < start + 10 with
  | some start => char.toNat - start
  | none => 0

/-- The characters `int` skips around a number. -/
def isNumberSpace (char : Char) : Bool :=
  isSpace char && !(0x1c ≤ char.toNat && char.toNat ≤ 0x1f)

/-- The digits of a number, between which single underscores may stand. -/
def digitsOf (text : List Char) : Option (List Char) :=
  let parts := text.splitOnP (· == '_')
  if parts.all fun part => !part.isEmpty && part.all isDecimalDigit then
    some parts.flatten
  else none

def naturalOf (digits : List Char) : Nat :=
  digits.foldl (fun value digit => 10 * value + digitValue digit) 0

/-- `int(text)`, which refuses more digits than 4300. -/
def intOfText (text : String) : Except (PythonError Own) Int :=
  let trimmed := (text.toList.dropWhile isNumberSpace).rdropWhile isNumberSpace
  let (negative, unsigned) := match trimmed with
    | '-' :: rest => (true, rest)
    | '+' :: rest => (false, rest)
    | rest => (false, rest)
  match digitsOf unsigned with
  | some digits =>
      if digits.length ≤ 4300 then
        .ok (if negative then -naturalOf digits else naturalOf digits)
      else .error .valueError
  | none => .error .valueError

/-- `int(value)` -/
def intOf : JsonValue → Except (PythonError Own) Int
  | .integer value => .ok value
  | .bool value => .ok (if value then 1 else 0)
  | .decimal value => .ok (value.num.tdiv value.den)
  | .nonFinite .nan => .error .valueError
  | .nonFinite _ => .error .otherError
  | .string text => intOfText text
  | _ => .error .typeError

/-- `value == 0`, which `False` and `0.0` are as well. -/
def isZero : JsonValue → Bool
  | .integer value => value == 0
  | .bool value => !value
  | .decimal value => value == 0
  | _ => false

/-- A text that a member has, with `None` for a missing one, is there. -/
theorem getOr_string {key text : String} {value : JsonValue} :
    (getOr key .null value : Except (PythonError Own) JsonValue) =
        .ok (.string text) ↔
      value.member key = some (.string text) := by
  cases value with
  | object members =>
      rw [getOr, JsonValue.member_object, Except.ok.injEq]
      cases JsonValue.lookup key members <;> simp
  | _ => simp [getOr, JsonValue.member]

/-- A member which has members itself is no default `{}`. -/
theorem getOr_object {key inner : String} {value found result : JsonValue}
    (hfound : (getOr key (.object []) value :
      Except (PythonError Own) JsonValue) = .ok found)
    (hinner : found.member inner = some result) :
    value.member key = some found := by
  cases value with
  | object members =>
      rw [getOr, Except.ok.injEq] at hfound
      rw [JsonValue.member_object]
      cases hlookup : JsonValue.lookup key members with
      | none =>
          rw [hlookup, Option.getD_none] at hfound
          rw [← hfound] at hinner
          cases hinner
      | some other =>
          rw [hlookup, Option.getD_some] at hfound
          rw [hfound]
  | _ => cases hfound

/-- An item which has members is one of a list. -/
theorem item_zero_array {key : String} {value found result : JsonValue}
    (hfound : (item 0 value : Except (PythonError Own) JsonValue) = .ok found)
    (hresult : found.member key = some result) :
    ∃ rest, value = .array (found :: rest) := by
  cases value with
  | array items =>
      cases items with
      | nil => cases hfound
      | cons first rest =>
          cases hfound
          exact ⟨rest, rfl⟩
  | string text =>
      unfold item at hfound
      cases hchar : text.toList[0]? with
      | none => simp [hchar] at hfound
      | some char =>
          have htext : JsonValue.string (String.ofList [char]) = found := by
            simpa [hchar] using hfound
          rw [← htext] at hresult
          cases hresult
  | _ => cases hfound

example : splitlines "first\r\nsecond\n\nlast" =
    ["first", "second", "", "last"] := by
  decide +kernel

end Python

import InventoryCloud.UnicodeUpperCase
import Mathlib.Data.List.DropRight
import Mathlib.Tactic

/-!
# Java strings

A Java string is a sequence of UTF-16 code units.  Lengths count code units,
`trim` removes code units up to U+0020, `isBlank` asks
`Character.isWhitespace`, and upper-casing works on code points.
-/

namespace InventoryCloud

abbrev JavaString := List UInt16

namespace JavaString

def encodeCodePoint (codePoint : ℕ) : List UInt16 :=
  if codePoint < 0x10000 then [codePoint.toUInt16]
  else
    [(0xD800 + (codePoint - 0x10000) / 0x400).toUInt16,
      (0xDC00 + (codePoint - 0x10000) % 0x400).toUInt16]

def ofString (text : String) : JavaString :=
  text.toList.flatMap fun char => encodeCodePoint char.toNat

def isHighSurrogate (unit : UInt16) : Bool :=
  0xD800 ≤ unit && unit ≤ 0xDBFF

def isLowSurrogate (unit : UInt16) : Bool :=
  0xDC00 ≤ unit && unit ≤ 0xDFFF

/-- Unpaired surrogates stand for themselves. -/
def codePoints : JavaString → List ℕ
  | [] => []
  | [unit] => [unit.toNat]
  | high :: low :: rest =>
      if isHighSurrogate high && isLowSurrogate low then
        (0x10000 + (high.toNat - 0xD800) * 0x400 + (low.toNat - 0xDC00)) ::
          codePoints rest
      else high.toNat :: codePoints (low :: rest)

/-- `Character.isWhitespace`; every such code point is one code unit. -/
def isWhitespace (unit : UInt16) : Bool :=
  (9 ≤ unit && unit ≤ 13) || (28 ≤ unit && unit ≤ 32) || unit == 0x1680 ||
    (0x2000 ≤ unit && unit ≤ 0x2006) || (0x2008 ≤ unit && unit ≤ 0x200A) ||
    unit == 0x2028 || unit == 0x2029 || unit == 0x205F || unit == 0x3000

def isBlank (text : JavaString) : Bool :=
  text.all isWhitespace

def trim (text : JavaString) : JavaString :=
  (text.dropWhile (· ≤ 0x20)).rdropWhile (· ≤ 0x20)

/-- `toUpperCase(Locale.ROOT)`. -/
def toUpperCase (text : JavaString) : JavaString :=
  (codePoints text).flatMap fun codePoint =>
    (Unicode.upperCase codePoint).flatMap encodeCodePoint

/-- `getBytes(StandardCharsets.UTF_8)`; an unpaired surrogate becomes `?`. -/
def utf8Bytes (text : JavaString) : List UInt8 :=
  (codePoints text).flatMap fun codePoint =>
    if codePoint < 0x80 then [codePoint.toUInt8]
    else if codePoint < 0x800 then
      [(0xC0 + codePoint / 0x40).toUInt8, (0x80 + codePoint % 0x40).toUInt8]
    else if 0xD800 ≤ codePoint ∧ codePoint ≤ 0xDFFF then [0x3F]
    else if codePoint < 0x10000 then
      [(0xE0 + codePoint / 0x1000).toUInt8,
        (0x80 + codePoint / 0x40 % 0x40).toUInt8,
        (0x80 + codePoint % 0x40).toUInt8]
    else
      [(0xF0 + codePoint / 0x40000).toUInt8,
        (0x80 + codePoint / 0x1000 % 0x40).toUInt8,
        (0x80 + codePoint / 0x40 % 0x40).toUInt8,
        (0x80 + codePoint % 0x40).toUInt8]

/-- Match the whole text against a pattern `[head][tail]{0,bound}`. -/
def matchesHeadTail (head tail : UInt16 → Bool) (bound : ℕ) :
    JavaString → Bool
  | [] => false
  | first :: rest => head first && rest.length ≤ bound && rest.all tail

def isAsciiDigit (unit : UInt16) : Bool :=
  0x30 ≤ unit && unit ≤ 0x39

def isAsciiUpper (unit : UInt16) : Bool :=
  0x41 ≤ unit && unit ≤ 0x5A

def isAsciiLower (unit : UInt16) : Bool :=
  0x61 ≤ unit && unit ≤ 0x7A

/-- One of `.`, `_` and `-`. -/
def isDotUnderscoreHyphen (unit : UInt16) : Bool :=
  unit == 0x2E || unit == 0x5F || unit == 0x2D

end JavaString

end InventoryCloud

import InventoryCloud.DelimitedTexts
import InventoryCloud.ServiceInterference
import InventoryCloud.WellFormedTexts

/-!
# What the advisory locks stand for

The text that is hashed into the id of an advisory lock can be read back: the
length is what stands before the second colon, and it tells where the customer
id ends.  Two requests have one lock only if they have the same customer and
key, or if the truncated hash collides.
-/

namespace InventoryCloud

open JavaString

/-! ## The digits of a length -/

theorem JavaString.colon_not_digit (number : ℕ) :
    (0x3A : UInt16) ∉ ofString (toString number) := by
  intro hmember
  have hdigits : (toString number).toList = Nat.toDigits 10 number :=
    Nat.toList_repr
  rw [ofString, hdigits, List.mem_flatMap] at hmember
  obtain ⟨char, hchar, hunit⟩ := hmember
  have hdigit := Nat.isDigit_of_mem_toDigits (by decide) (by decide) hchar
  have hrange : 48 ≤ char.toNat ∧ char.toNat ≤ 57 := by
    simpa [Char.isDigit, UInt32.le_iff_toNat_le] using hdigit
  rw [encodeCodePoint_of_lt (by omega), List.mem_singleton] at hunit
  have hvalue := congrArg UInt16.toNat hunit
  simp only [Nat.toUInt16_eq, UInt16.toNat_ofNat'] at hvalue
  change 58 = _ at hvalue
  omega

theorem JavaString.ofString_toString_inj {first second : ℕ} :
    ofString (toString first) = ofString (toString second) ↔
      first = second := by
  rw [ofString_inj]
  constructor
  · intro hsame
    have hdigits : Nat.toDigits 10 first = Nat.toDigits 10 second := by
      rw [← Nat.toList_repr, ← Nat.toList_repr]
      exact congrArg String.toList hsame
    calc first = Nat.ofDigitChars 10 (Nat.toDigits 10 first) 0 :=
          Nat.ofDigitChars_ten_toDigits.symm
      _ = Nat.ofDigitChars 10 (Nat.toDigits 10 second) 0 := by rw [hdigits]
      _ = second := Nat.ofDigitChars_ten_toDigits
  · intro hsame
    rw [hsame]

namespace ReservationKeyLock

/-- The text of which `lockId` hashes the bytes. -/
def lockText (customerId key : JavaString) : JavaString :=
  ofString "reservation:" ++ ofString (toString customerId.length) ++
    ofString ":" ++ customerId ++ ofString ":" ++ key

def lockBytes (customerId key : JavaString) : List UInt8 :=
  utf8Bytes (lockText customerId key)

theorem lockId_eq (sha256 : List UInt8 → List UInt8)
    (customerId key : JavaString) :
    lockId sha256 customerId key =
      getLong (sha256 (lockBytes customerId key)) := rfl

theorem isWellFormed_lockText {customerId key : JavaString}
    (hcustomer : IsWellFormed customerId) (hkey : IsWellFormed key) :
    IsWellFormed (lockText customerId key) :=
  (((((isWellFormed_ofString _).append (isWellFormed_ofString _)).append
    (isWellFormed_ofString _)).append hcustomer).append
      (isWellFormed_ofString _)).append hkey

theorem lockText_eq (customerId key : JavaString) :
    lockText customerId key =
      ofString "reservation:" ++ (ofString (toString customerId.length) ++
        0x3A :: (customerId ++ 0x3A :: key)) := by
  have hcolon : ofString ":" = [0x3A] := rfl
  simp only [lockText, hcolon, List.append_assoc, List.nil_append,
    List.cons_append]

/-- The length ends at the first colon after the name of the lock, and the
customer id has that length. -/
theorem lockText_inj {customerId customerId' key key' : JavaString} :
    lockText customerId key = lockText customerId' key' ↔
      customerId = customerId' ∧ key = key' := by
  constructor
  · intro htext
    rw [lockText_eq, lockText_eq] at htext
    obtain ⟨hdigits, hrest⟩ := Delimited.eq_of_first (colon_not_digit _)
      (colon_not_digit _) (List.append_cancel_left htext)
    have hlength : customerId.length = customerId'.length :=
      ofString_toString_inj.mp hdigits
    obtain ⟨hcustomer, hkey⟩ := List.append_inj hrest hlength
    exact ⟨hcustomer, List.tail_eq_of_cons_eq hkey⟩
  · intro hsame
    rw [hsame.1, hsame.2]

theorem lockBytes_inj {customerId customerId' key key' : JavaString}
    (hcustomer : IsWellFormed customerId) (hkey : IsWellFormed key)
    (hcustomer' : IsWellFormed customerId') (hkey' : IsWellFormed key') :
    lockBytes customerId key = lockBytes customerId' key' ↔
      customerId = customerId' ∧ key = key' := by
  rw [lockBytes, lockBytes, utf8Bytes_inj
    (isWellFormed_lockText hcustomer hkey)
    (isWellFormed_lockText hcustomer' hkey'), lockText_inj]

/-- Requests share the bytes only with their own customer and key, and share
the lock beyond that only where the truncated hash collides. -/
theorem lockId_unambiguous {customerId customerId' key key' : JavaString}
    (hcustomer : IsWellFormed customerId) (hkey : IsWellFormed key)
    (hcustomer' : IsWellFormed customerId') (hkey' : IsWellFormed key') :
    (lockBytes customerId key = lockBytes customerId' key' ↔
        customerId = customerId' ∧ key = key') ∧
      ∀ sha256, lockId sha256 customerId key = lockId sha256 customerId' key' ↔
        (customerId = customerId' ∧ key = key') ∨
          (lockBytes customerId key ≠ lockBytes customerId' key' ∧
            getLong (sha256 (lockBytes customerId key)) =
              getLong (sha256 (lockBytes customerId' key'))) := by
  have hbytes := lockBytes_inj hcustomer hkey hcustomer' hkey'
  constructor
  · exact hbytes
  · intro sha256
    rw [lockId_eq, lockId_eq, ← hbytes]
    constructor
    · intro hlock
      by_cases hsame : lockBytes customerId key = lockBytes customerId' key'
      · exact Or.inl hsame
      · exact Or.inr ⟨hsame, hlock⟩
    · rintro (hsame | ⟨-, hlock⟩)
      · rw [hsame]
      · exact hlock

/-- A colon may stand in the customer id or in the key. -/
theorem lockId_unambiguous_sample :
    lockBytes (ofString "1:a") (ofString "b") ≠
      lockBytes (ofString "1") (ofString "a:b") := by
  intro hbytes
  have hsame := (lockId_unambiguous (isWellFormed_ofString "1:a")
    (isWellFormed_ofString "b") (isWellFormed_ofString "1")
    (isWellFormed_ofString "a:b")).1.mp hbytes
  exact absurd hsame.1 (by decide)

/-- Unpaired surrogates are all hashed as question marks. -/
example : lockBytes [0xD800] (ofString "k") = lockBytes [0x3F] (ofString "k") := by
  decide +kernel

end ReservationKeyLock

end InventoryCloud

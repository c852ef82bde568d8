import Ecmascript.Proofs.Source.Cut
import Ecmascript.Token.Character

/-!
# The bytes of a text

A character of ASCII is its one byte, and no byte of any other character is one of ASCII at its
beginning. So looking for such a character may look at a byte.
-/

set_option autoImplicit false

namespace Ecmascript.Text

/-- The bytes of a text in its UTF-8 encoding. -/
def bytes (text : Text) : List UInt8 :=
  text.flatMap String.utf8EncodeChar

theorem bytes_append (front back : Text) : bytes (front ++ back) = bytes front ++ bytes back :=
  List.flatMap_append

theorem length_bytes (text : Text) : (bytes text).length = text.byteLength := by
  induction text with
  | nil => rfl
  | cons c rest ih =>
      rw [bytes, List.flatMap_cons, List.length_append, String.length_utf8EncodeChar, byteLength]
      exact congrArg (c.utf8Size + ·) ih

theorem drop_bytes (front back : Text) :
    (bytes (front ++ back)).drop front.byteLength = bytes back := by
  rw [bytes_append, ← length_bytes, List.drop_left]

theorem bytes_cons {c : Char} (ascii : c.val ≤ 127) (rest : Text) :
    bytes (c :: rest) = c.val.toUInt8 :: bytes rest := by
  rw [bytes, List.flatMap_cons,
    String.utf8EncodeChar_eq_singleton (Char.utf8Size_eq_one_iff.2 ascii)]
  rfl

theorem toUInt8_inj {c d : Char} (first : c.val ≤ 127) (second : d.val ≤ 127) :
    c.val.toUInt8 = d.val.toUInt8 ↔ c = d := by
  constructor
  · intro same
    have same := congrArg UInt8.toNat same
    rw [UInt32.le_iff_toNat_le] at first second
    simp only [UInt32.toNat_toUInt8] at same
    apply Char.ext
    apply UInt32.toNat.inj
    have : (127 : UInt32).toNat = 127 := rfl
    omega
  · intro same
    rw [same]

def isDigitByte (byte : UInt8) : Bool :=
  48 ≤ byte && byte ≤ 57

/-- A character of more than one byte begins with a byte whose two highest bits are set. -/
theorem head_utf8EncodeChar {c : Char} (long : ¬ c.val ≤ 127) :
    ∃ high low : UInt8, (String.utf8EncodeChar c).head? = some (high ||| low) ∧ 57 < low := by
  rcases c.utf8Size_eq with one | two | three | four
  · exact absurd (Char.utf8Size_eq_one_iff.1 one) long
  · exact ⟨_, 192, by rw [String.utf8EncodeChar_eq_cons_cons two]; rfl, by decide⟩
  · exact ⟨_, 224, by rw [String.utf8EncodeChar_eq_cons_cons_cons three]; rfl, by decide⟩
  · exact ⟨_, 240, by rw [String.utf8EncodeChar_eq_cons_cons_cons_cons four]; rfl, by decide⟩

theorem isDigitByte_or {high low : UInt8} (large : 57 < low) :
    isDigitByte (high ||| low) = false := by
  have above : low.toNat ≤ (high ||| low).toNat := by
    rw [UInt8.toNat_or]
    exact Nat.right_le_or
  have outside : ¬ (high ||| low) ≤ 57 := by
    rw [UInt8.le_iff_toNat_le]
    rw [UInt8.lt_iff_toNat_lt] at large
    omega
  simp [isDigitByte, outside]

/-- The first byte of a character is a digit exactly if the character is. -/
theorem isDigitByte_head (c : Char) :
    (String.utf8EncodeChar c).head?.any isDigitByte = Character.isDecimalDigit c := by
  by_cases ascii : c.val ≤ 127
  · rw [String.utf8EncodeChar_eq_singleton (Char.utf8Size_eq_one_iff.2 ascii)]
    rw [UInt32.le_iff_toNat_le] at ascii
    have small : c.val.toUInt8.toNat = c.val.toNat := by
      rw [UInt32.toNat_toUInt8]
      exact Nat.mod_eq_of_lt (Nat.lt_of_le_of_lt ascii (by decide))
    rw [Bool.eq_iff_iff]
    simp only [List.head?_cons, Option.any_some, isDigitByte, Character.isDecimalDigit,
      Unicode.isAsciiDigit, Bool.and_eq_true, decide_eq_true_eq, UInt8.le_iff_toNat_le, small,
      Char.le_def, UInt32.le_iff_toNat_le]
    rfl
  · obtain ⟨high, low, begins, large⟩ := head_utf8EncodeChar ascii
    have outside : ¬ c ≤ '9' := by
      intro inside
      exact ascii (UInt32.le_trans inside (by decide))
    rw [begins, Option.any_some, isDigitByte_or large]
    simp [Character.isDecimalDigit, Unicode.isAsciiDigit, outside]

theorem isDigitByte_head_bytes (text : Text) :
    (bytes text).head?.any isDigitByte = text.head?.any Character.isDecimalDigit := by
  cases text with
  | nil => rfl
  | cons c rest =>
      rw [bytes, List.flatMap_cons, List.head?_append_of_ne_nil _ String.utf8EncodeChar_ne_nil]
      exact isDigitByte_head c

end Ecmascript.Text

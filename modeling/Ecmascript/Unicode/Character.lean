import Ecmascript.Unicode.Alphabetic
import Ecmascript.Unicode.DefaultIgnorable
import Ecmascript.Unicode.GraphemeExtend
import Ecmascript.Unicode.Numeric
import Ecmascript.Unicode.Unprintable

/-!
# Character properties

Each property answers ASCII characters by their own rule and consults a table of ranges only
beyond ASCII.
-/

set_option autoImplicit false

namespace Ecmascript.Unicode

/-- The ASCII letters. -/
def isAsciiLetter (c : Char) : Bool :=
  ('a' ≤ c && c ≤ 'z') || ('A' ≤ c && c ≤ 'Z')

/-- The ASCII decimal digits. -/
def isAsciiDigit (c : Char) : Bool :=
  '0' ≤ c && c ≤ '9'

/-- Characters with the property Alphabetic. -/
def isAlphabetic (c : Char) : Bool :=
  if isAscii c then isAsciiLetter c else alphabetic.contains c.toNat

/-- Characters of the general categories Nd, Nl and No. -/
def isNumeric (c : Char) : Bool :=
  if isAscii c then isAsciiDigit c else numeric.contains c.toNat

/-- Alphabetic or numeric characters. -/
def isAlphanumeric (c : Char) : Bool :=
  isAlphabetic c || isNumeric c

/-- Characters with the property White_Space. -/
def isWhiteSpace (c : Char) : Bool :=
  c = ' ' || ('\x09' ≤ c && c ≤ '\x0d') || c = '\u0085' || c = '\u00a0' || c = '\u1680' ||
    ('\u2000' ≤ c && c ≤ '\u200a') || c = '\u2028' || c = '\u2029' || c = '\u202f' ||
    c = '\u205f' || c = '\u3000'

/-- The sound marks of halfwidth kana. They have the property Grapheme_Extend and are letters all
the same: each has a width of its own. -/
def isHalfwidthSoundMark (c : Char) : Bool :=
  c = '\uff9e' || c = '\uff9f'

/-- Characters that attach to the character before them. -/
def isAttaching (c : Char) : Bool :=
  graphemeExtend.contains c.toNat && !isHalfwidthSoundMark c

/-- Characters that can be shown by themselves: those with a visible form that do not attach
to the character before them. The only blank among them is the ASCII space. -/
def isShowable (c : Char) : Bool :=
  if isAscii c then '\x20' ≤ c && c ≤ '\x7e'
  else !unprintable.contains c.toNat && !defaultIgnorable.contains c.toNat && !isAttaching c

end Ecmascript.Unicode

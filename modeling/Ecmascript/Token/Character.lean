import Ecmascript.Unicode.Character

/-!
# Character classes of tokens
-/

set_option autoImplicit false

namespace Ecmascript.Character

open Unicode

/-- Line feed, carriage return, line separator and paragraph separator. -/
def isLineTerminator (c : Char) : Bool :=
  c = '\n' || c = '\r' || c = '\u2028' || c = '\u2029'

/-- Characters that separate tokens, line terminators included: white space and the byte order
mark. -/
def isBlank (c : Char) : Bool :=
  isWhiteSpace c || c = '\ufeff'

/-- Characters that may begin a word. -/
def isIdentifierStart (c : Char) : Bool :=
  isAsciiLetter c || c = '_' || c = '$' || (!isAscii c && isAlphabetic c)

/-- Characters that may continue a word, and the flags of a regular expression. -/
def isIdentifierPart (c : Char) : Bool :=
  isAsciiLetter c || isAsciiDigit c || c = '_' || c = '$' || (!isAscii c && isAlphanumeric c)

/-- The decimal digits. -/
def isDecimalDigit (c : Char) : Bool :=
  isAsciiDigit c

/-- Decimal digits and the digit separator. -/
def isDigitOrSeparator (c : Char) : Bool :=
  isAsciiDigit c || c = '_'

/-- The hexadecimal digits, in either case. -/
def isHexDigit (c : Char) : Bool :=
  isAsciiDigit c || ('a' ≤ c && c ≤ 'f') || ('A' ≤ c && c ≤ 'F')

/-- The octal digits. -/
def isOctalDigit (c : Char) : Bool :=
  '0' ≤ c && c ≤ '7'

/-- The binary digits. -/
def isBinaryDigit (c : Char) : Bool :=
  c = '0' || c = '1'

end Ecmascript.Character

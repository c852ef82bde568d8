import Ecmascript.Token.Keyword
import Ecmascript.Token.Punctuator

/-!
# Tokens

A token keeps the exact source text of what it stands for: nothing is decoded. Words and
punctuators are known by their kind alone; literals, identifiers and template chunks carry their
raw text.
-/

set_option autoImplicit false

namespace Ecmascript

/-- The place of a text chunk in its template literal. -/
inductive TemplatePart where
  | head | middle | tail | whole
  deriving DecidableEq

/-- What a token is. Strings and regular expressions are kept with their delimiters, template
chunks without. -/
inductive TokenKind where
  | number (raw : String)
  | string (raw : String)
  | regex (raw : String)
  | identifier (name : String)
  | template (part : TemplatePart) (raw : String)
  | keyword (keyword : Keyword)
  | punctuator (punctuator : Punctuator)
  | endOfInput
  deriving DecidableEq

/-- A token between two byte offsets. The end of input counts as preceded by a line break. -/
structure Token where
  kind : TokenKind
  start : Nat
  stop : Nat
  newlineBefore : Bool
  deriving DecidableEq

namespace TokenKind

/-- The fixed spelling of keywords and punctuators. -/
def spelling? : TokenKind → Option String
  | keyword word => some word.spelling
  | punctuator mark => some mark.spelling
  | _ => none

/-- The class of a token as diagnostics name it. -/
def category : TokenKind → String
  | number _ => "number"
  | string _ => "string"
  | regex _ => "regular expression"
  | identifier _ => "identifier"
  | template _ _ => "template"
  | keyword _ => "keyword"
  | punctuator _ => "punctuator"
  | endOfInput => "end of input"

/-- Whether a token is a reserved word. -/
def isKeyword : TokenKind → Bool
  | keyword _ => true
  | _ => false

/-- Tokens that end an operand. A slash after one of these is taken for a division; after any
other token, and at the beginning, for a regular expression. -/
def endsOperand : TokenKind → Bool
  | identifier _ | number _ | string _ | regex _ => true
  | template .tail _ | template .whole _ => true
  | keyword .trueWord | keyword .falseWord | keyword .nullWord => true
  | keyword .thisWord | keyword .superWord => true
  | punctuator .rightParen | punctuator .rightBracket => true
  | _ => false

/-- How tightly a binary operator binds: a greater number binds tighter, and zero means that the
token is not a binary operator. Exponentiation is absent, because it groups to the right and
stands between the unary and the multiplicative operators on a level of its own. -/
def precedence : TokenKind → Nat
  | punctuator .logicalOr | punctuator .nullish => 4
  | punctuator .logicalAnd => 5
  | punctuator .pipe => 6
  | punctuator .caret => 7
  | punctuator .ampersand => 8
  | punctuator .equal | punctuator .notEqual => 9
  | punctuator .strictEqual | punctuator .strictNotEqual => 9
  | punctuator .less | punctuator .lessEqual => 10
  | punctuator .greater | punctuator .greaterEqual => 10
  | keyword .inWord | keyword .instanceofWord => 10
  | punctuator .leftShift | punctuator .rightShift | punctuator .unsignedRightShift => 11
  | punctuator .plus | punctuator .minus => 12
  | punctuator .star | punctuator .slash | punctuator .percent => 13
  | _ => 0

end TokenKind

end Ecmascript

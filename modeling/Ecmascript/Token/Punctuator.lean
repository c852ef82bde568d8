import Ecmascript.Source
import Ecmascript.Token.Character

/-!
# Punctuators

Punctuators and operators share one table of spellings, and the text decides between them by
longest match. The one exception is the optional chain: before a digit, `?.` is a question mark
and the digit belongs to a number that starts with the dot.
-/

set_option autoImplicit false

namespace Ecmascript

/-- Punctuators and operators. -/
inductive Punctuator where
  | leftBrace | rightBrace | leftParen | rightParen | leftBracket | rightBracket | dot | ellipsis
  | semicolon | comma | colon | question | optionalChain | nullish | arrow | plus | minus | star
  | power | slash | percent | increment | decrement | less | lessEqual | greater | greaterEqual
  | equal | notEqual | strictEqual | strictNotEqual | ampersand | pipe | caret | tilde
  | logicalAnd | logicalOr | bang | leftShift | rightShift | unsignedRightShift | assign
  | plusAssign | minusAssign | starAssign | powerAssign | slashAssign | percentAssign
  | ampersandAssign | pipeAssign | caretAssign | leftShiftAssign | rightShiftAssign
  | unsignedRightShiftAssign | logicalAndAssign | logicalOrAssign | nullishAssign
  deriving DecidableEq

namespace Punctuator

/-- How a punctuator is written. -/
def spelling : Punctuator → String
  | leftBrace => "\x7b"
  | rightBrace => "\x7d"
  | leftParen => "("
  | rightParen => ")"
  | leftBracket => "["
  | rightBracket => "]"
  | dot => "."
  | ellipsis => "..."
  | semicolon => ";"
  | comma => ","
  | colon => ":"
  | question => "?"
  | optionalChain => "?."
  | nullish => "??"
  | arrow => "=>"
  | plus => "+"
  | minus => "-"
  | star => "*"
  | power => "**"
  | slash => "/"
  | percent => "%"
  | increment => "++"
  | decrement => "--"
  | less => "<"
  | lessEqual => "<="
  | greater => ">"
  | greaterEqual => ">="
  | equal => "=="
  | notEqual => "!="
  | strictEqual => "==="
  | strictNotEqual => "!=="
  | ampersand => "&"
  | pipe => "|"
  | caret => "^"
  | tilde => "~"
  | logicalAnd => "&&"
  | logicalOr => "||"
  | bang => "!"
  | leftShift => "<<"
  | rightShift => ">>"
  | unsignedRightShift => ">>>"
  | assign => "="
  | plusAssign => "+="
  | minusAssign => "-="
  | starAssign => "*="
  | powerAssign => "**="
  | slashAssign => "/="
  | percentAssign => "%="
  | ampersandAssign => "&="
  | pipeAssign => "|="
  | caretAssign => "^="
  | leftShiftAssign => "<<="
  | rightShiftAssign => ">>="
  | unsignedRightShiftAssign => ">>>="
  | logicalAndAssign => "&&="
  | logicalOrAssign => "||="
  | nullishAssign => "??="

/-- Every punctuator; no spelling stands before a longer one. -/
def all : List Punctuator :=
  [unsignedRightShiftAssign, ellipsis, strictEqual, strictNotEqual, unsignedRightShift,
  powerAssign, leftShiftAssign, rightShiftAssign, logicalAndAssign, logicalOrAssign,
  nullishAssign, optionalChain, nullish, arrow, power, increment, decrement, lessEqual,
  greaterEqual, equal, notEqual, logicalAnd, logicalOr, leftShift, rightShift, plusAssign,
  minusAssign, starAssign, slashAssign, percentAssign, ampersandAssign, pipeAssign, caretAssign,
  leftBrace, rightBrace, leftParen, rightParen, leftBracket, rightBracket, dot, semicolon, comma,
  colon, question, plus, minus, star, slash, percent, less, greater, ampersand, pipe, caret,
  tilde, bang, assign]

/-- Every punctuator with its spelling as text. -/
def table : List (Text × Punctuator) :=
  all.map fun punctuator => (punctuator.spelling.toList, punctuator)

/-- Whether a text begins with a spelling of the table. An optional chain is not followed by a
digit. -/
def begins (entry : Text × Punctuator) (text : Text) : Bool :=
  entry.1.isPrefixOf text &&
    !(entry.2 = optionalChain && (text.drop 2).head?.any Character.isDecimalDigit)

/-- The longest punctuator with which a text begins. -/
def longest? (text : Text) : Option Punctuator :=
  (table.find? fun entry => begins entry text).map Prod.snd

end Punctuator

end Ecmascript

import Ecmascript.Source

/-!
# Lexical errors
-/

set_option autoImplicit false

namespace Ecmascript

/-- The things that need a closing delimiter. -/
inductive Delimited where
  | comment | string | template | regularExpression
  deriving DecidableEq

/-- The name of a delimited thing in messages. -/
def Delimited.name : Delimited → String
  | comment => "comment"
  | string => "string"
  | template => "template"
  | regularExpression => "regular expression"

/-- Why no token could be read. Positions are byte offsets: of the character itself, or of the
opening delimiter. -/
inductive LexError where
  | unexpectedCharacter (character : Char) (position : Nat)
  | unterminated (what : Delimited) (start : Nat)
  deriving DecidableEq

namespace LexError

/-- Where the error is reported. -/
def position : LexError → Nat
  | unexpectedCharacter _ position => position
  | unterminated _ start => start

/-- The message of a lexical error. -/
def message : LexError → String
  | unexpectedCharacter character position =>
      "unexpected character `" ++ character.toString ++ "` at " ++ toString position
  | unterminated what start =>
      "unterminated " ++ what.name ++ " starting at " ++ toString start

end LexError

end Ecmascript

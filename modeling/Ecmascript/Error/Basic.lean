import Ecmascript.Lexer.Error
import Ecmascript.Token.Basic

/-!
# Syntax errors

Parsing stops at the first error, which carries its cause and the offsets of what is at fault.
Every message begins with the same two words, so that callers can recognise it.
-/

set_option autoImplicit false

namespace Ecmascript

/-- Why a construct made of valid tokens is not valid itself. -/
inductive Invalidity where
  | nestingTooDeep
  | assignmentTarget
  | updateTarget
  | unaryBase
  | severalBindings
  | other (what : String)
  deriving DecidableEq

/-- The wording of an invalid construct. -/
def Invalidity.message : Invalidity → String
  | nestingTooDeep => "nesting too deep"
  | assignmentTarget => "invalid assignment target"
  | updateTarget => "invalid update target"
  | unaryBase => "unary operand of `**` must be parenthesized"
  | severalBindings => "only one binding allowed in a for-in/of head"
  | other what => what

/-- The classes of syntax errors. -/
inductive ErrorKind where
  | unexpectedCharacter | unexpectedToken | reservedWordMisuse
  deriving DecidableEq

/-- Why a text is not a script: no token could be read, a token stands where it cannot, a reserved
word stands for a name, or a construct is invalid as a whole. Tokens come with their source
text. -/
inductive SyntaxError where
  | lexical (error : LexError)
  | unexpected (token : Token) (text : String)
  | reserved (token : Token) (text : String)
  | invalid (start stop : Nat) (reason : Invalidity)
  deriving DecidableEq

namespace SyntaxError

/-- The class of an error. -/
def kind : SyntaxError → ErrorKind
  | lexical _ => .unexpectedCharacter
  | unexpected _ _ => .unexpectedToken
  | reserved _ _ => .reservedWordMisuse
  | invalid _ _ _ => .unexpectedToken

/-- Where the fault begins. -/
def start : SyntaxError → Nat
  | lexical error => error.position
  | unexpected token _ => token.start
  | reserved token _ => token.start
  | invalid start _ _ => start

/-- Where the fault ends. -/
def stop : SyntaxError → Nat
  | lexical error => error.position
  | unexpected token _ => token.stop
  | reserved token _ => token.stop
  | invalid _ stop _ => stop

/-- A token as messages name it: its class, and its text unless it is empty. -/
def nameToken (token : Token) (text : String) : String :=
  if token.start = token.stop then token.kind.category
  else token.kind.category ++ " `" ++ text ++ "`"

/-- The message of an error. -/
def message : SyntaxError → String
  | lexical error => "Unexpected token: " ++ error.message
  | unexpected token text =>
      "Unexpected token " ++ nameToken token text ++ " at " ++ toString token.start
  | reserved token text =>
      "Unexpected token " ++ nameToken token text ++ " at " ++ toString token.start ++
        ": reserved word cannot be used as an identifier"
  | invalid start _ reason =>
      "Unexpected token at " ++ toString start ++ ": " ++ reason.message

end SyntaxError

end Ecmascript

/-!
# Keywords

The reserved words. The words `true`, `false` and `null` are reserved too; contextual words such
as `of`, `async` or `static` are ordinary identifiers.
-/

set_option autoImplicit false

namespace Ecmascript

/-- The reserved words. -/
inductive Keyword where
  | breakWord | caseWord | catchWord | classWord | constWord | continueWord | debuggerWord
  | defaultWord | deleteWord | doWord | elseWord | enumWord | exportWord | extendsWord
  | falseWord | finallyWord | forWord | functionWord | ifWord | importWord | inWord
  | instanceofWord | letWord | newWord | nullWord | returnWord | superWord | switchWord
  | thisWord | throwWord | trueWord | tryWord | typeofWord | varWord | voidWord | whileWord
  | withWord
  deriving DecidableEq

namespace Keyword

/-- How a keyword is written. -/
def spelling : Keyword → String
  | breakWord => "break"
  | caseWord => "case"
  | catchWord => "catch"
  | classWord => "class"
  | constWord => "const"
  | continueWord => "continue"
  | debuggerWord => "debugger"
  | defaultWord => "default"
  | deleteWord => "delete"
  | doWord => "do"
  | elseWord => "else"
  | enumWord => "enum"
  | exportWord => "export"
  | extendsWord => "extends"
  | falseWord => "false"
  | finallyWord => "finally"
  | forWord => "for"
  | functionWord => "function"
  | ifWord => "if"
  | importWord => "import"
  | inWord => "in"
  | instanceofWord => "instanceof"
  | letWord => "let"
  | newWord => "new"
  | nullWord => "null"
  | returnWord => "return"
  | superWord => "super"
  | switchWord => "switch"
  | thisWord => "this"
  | throwWord => "throw"
  | trueWord => "true"
  | tryWord => "try"
  | typeofWord => "typeof"
  | varWord => "var"
  | voidWord => "void"
  | whileWord => "while"
  | withWord => "with"

/-- Every keyword, in alphabetical order. -/
def all : List Keyword :=
  [breakWord, caseWord, catchWord, classWord, constWord, continueWord, debuggerWord, defaultWord,
  deleteWord, doWord, elseWord, enumWord, exportWord, extendsWord, falseWord, finallyWord,
  forWord, functionWord, ifWord, importWord, inWord, instanceofWord, letWord, newWord, nullWord,
  returnWord, superWord, switchWord, thisWord, throwWord, trueWord, tryWord, typeofWord, varWord,
  voidWord, whileWord, withWord]

/-- The keyword with a given spelling. -/
def ofSpelling? (word : String) : Option Keyword :=
  all.find? fun keyword => keyword.spelling == word

end Keyword

end Ecmascript

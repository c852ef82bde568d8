import Ecmascript.Options.Basic
import Ecmascript.Source
import Ecmascript.Unicode.Character

/-!
# Writing source text

The output under construction, and the pieces that printing is made of. A token is preceded by a
space exactly where it would otherwise run together with what is already written. Everything else
that is blank belongs to the pretty style only.
-/

set_option autoImplicit false

namespace Ecmascript

/-- Output under construction. `written` holds the characters so far, the last one first. `noIn`
tells that the operator `in` needs parentheses here, and `afterRegex` that a regular expression has
just been written. -/
structure Writer where
  written : List Char
  style : Style
  indent : Nat
  noIn : Bool
  afterRegex : Bool
  deriving DecidableEq

namespace Writer

/-- The output before anything is written. -/
def empty (style : Style) : Writer :=
  { written := [], style, indent := 0, noIn := false, afterRegex := false }

/-- The text that has been written. -/
def text (writer : Writer) : Text :=
  writer.written.reverse

/-- Characters that run together into one word. -/
def isWordCharacter (c : Char) : Bool :=
  Unicode.isAlphanumeric c || c = '_' || c = '$' || c = '\\'

/-- Whether two characters side by side would be read as part of one token, or as a comment. -/
def fuses (last next : Char) : Bool :=
  (isWordCharacter last && isWordCharacter next) ||
    (last = '+' && next = '+') || (last = '-' && next = '-') ||
    (last = '/' && (next = '/' || next = '*'))

/-- Whether a space is needed before a character. A word character behind a regular expression
would be a flag of it. -/
def needsSpace (writer : Writer) (next : Char) : Bool :=
  match writer.written with
  | [] => false
  | last :: _ => fuses last next || (writer.afterRegex && isWordCharacter next)

/-- Writes text as it is. -/
def push (writer : Writer) (text : Text) : Writer :=
  { writer with
    written := text.reverse ++ writer.written
    afterRegex := writer.afterRegex && text.isEmpty }

end Writer

/-- A piece of printing. -/
abbrev Print := Writer → Writer

namespace Print

/-- Prints pieces one after the other. -/
def all (pieces : List Print) : Print :=
  fun writer => pieces.foldl (fun writer piece => piece writer) writer

/-- Prints nothing. -/
def nothing : Print :=
  fun writer => writer

/-- Prints a piece, or nothing. -/
def when (condition : Bool) (piece : Print) : Print :=
  if condition then piece else nothing

/-- Prints text as it is. -/
def raw (text : String) : Print :=
  fun writer => writer.push text.toList

/-- Prints a token, after a space if it needs one. -/
def token (text : String) : Print :=
  fun writer =>
    match text.toList with
    | [] => writer
    | next :: rest =>
        (if writer.needsSpace next then writer.push [' '] else writer).push (next :: rest)

/-- Prints the token of a regular expression. -/
def regex (text : String) : Print :=
  fun writer => { token text writer with afterRegex := true }

/-- A space of the pretty style. -/
def space : Print :=
  fun writer => if writer.style = .pretty then writer.push [' '] else writer

/-- A line break of the pretty style, with the indentation of the new line. -/
def newline : Print :=
  fun writer =>
    if writer.style = .pretty then
      writer.push ('\n' :: List.replicate (4 * writer.indent) ' ')
    else writer

/-- A comma between the items of a list. -/
def comma : Print :=
  all [raw ",", space]

/-- An operator between two operands. -/
def operator (text : String) : Print :=
  all [space, token text, space]

/-- Prints a piece where the operator `in` needs no parentheses. -/
def allowingIn (piece : Print) : Print :=
  fun writer => { piece { writer with noIn := false } with noIn := writer.noIn }

/-- Prints a piece in parentheses. -/
def parenthesized (piece : Print) : Print :=
  allowingIn (all [token "(", piece, token ")"])

/-- Prints the first part of the head of a loop, where the operator `in` needs parentheses. Behind
it the operator needs none. -/
def loopHead (piece : Print) : Print :=
  fun writer => { piece { writer with noIn := true } with noIn := false }

/-- Prints a piece one level further in, and goes one level back. -/
def indented (piece : Print) : Print :=
  fun writer =>
    let after := piece { writer with indent := writer.indent + 1 }
    { after with indent := after.indent - 1 }

/-- Prints the lines of a block in braces. -/
def braces (isEmpty : Bool) (lines : Print) : Print :=
  if isEmpty then all [token "\x7b", token "\x7d"]
  else all [token "\x7b", indented (all [newline, lines]), newline, token "\x7d"]

end Print

end Ecmascript

import Ecmascript.Source
import Ecmascript.Token.Character

/-!
# Blanks and comments

What separates tokens: blanks, line comments and block comments, in any number and order. Skipping
stops at the first character that belongs to none of them. It also reports whether a line
terminator was passed, since automatic semicolons depend on it; a line terminator inside a block
comment counts.
-/

set_option autoImplicit false

namespace Ecmascript.Trivia

open Character

/-- What is being skipped. A block comment remembers the offset at which it began. -/
inductive Mode where
  | blank
  | lineComment
  | blockComment (start : Nat)
  deriving DecidableEq

/-- How skipping ends: before a token or the end of input, or inside a block comment that is never
closed. -/
inductive Outcome where
  | skipped (position : Nat) (rest : Text) (newline : Bool)
  | unclosed (start position : Nat)
  deriving DecidableEq

/-- Skips from an offset on. `newline` tells whether a line terminator was already passed. -/
def skipFrom : Mode → Nat → Bool → Text → Outcome
  | .blank, position, newline, [] => .skipped position [] newline
  | .blank, position, newline, '/' :: '/' :: rest =>
      skipFrom .lineComment (position + 2) newline rest
  | .blank, position, newline, '/' :: '*' :: rest =>
      skipFrom (.blockComment position) (position + 2) newline rest
  | .blank, position, newline, c :: rest =>
      if isLineTerminator c then skipFrom .blank (position + c.utf8Size) true rest
      else if isBlank c then skipFrom .blank (position + c.utf8Size) newline rest
      else .skipped position (c :: rest) newline
  | .lineComment, position, newline, [] => .skipped position [] newline
  | .lineComment, position, newline, c :: rest =>
      if isLineTerminator c then skipFrom .blank (position + c.utf8Size) true rest
      else skipFrom .lineComment (position + c.utf8Size) newline rest
  | .blockComment start, position, _, [] => .unclosed start position
  | .blockComment _, position, newline, '*' :: '/' :: rest =>
      skipFrom .blank (position + 2) newline rest
  | .blockComment start, position, newline, c :: rest =>
      skipFrom (.blockComment start) (position + c.utf8Size) (newline || isLineTerminator c) rest

/-- Skips blanks and comments before a token. -/
def skip (position : Nat) (text : Text) : Outcome :=
  skipFrom .blank position false text

end Ecmascript.Trivia

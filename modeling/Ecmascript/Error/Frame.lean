import Ecmascript.Error.Basic

/-!
# Code frames

A code frame shows where an error lies: a heading with line and column, and the line itself between
two lines before and two lines after it, with carets under what is at fault. Lines end at line
feeds only, and columns count characters. Any two offsets give a frame: an offset inside a
character is moved to its beginning, one past the end to the end, and a range that ends before it
begins is empty.
-/

set_option autoImplicit false

namespace Ecmascript

/-- The lines of a text, without their line feeds. There is always at least one. -/
def Text.lines : Text → List Text
  | [] => [[]]
  | '\n' :: rest => [] :: lines rest
  | c :: rest =>
      match lines rest with
      | [] => [[c]]
      | line :: more => (c :: line) :: more

/-- The line without the carriage returns at its end. -/
def Text.trimReturns (line : Text) : Text :=
  (line.reverse.dropWhile (· = '\r')).reverse

namespace Frame

/-- The place that a frame points at: the index of the line, the column in it, and the number of
carets. Indices begin at zero. -/
structure Mark where
  line : Nat
  column : Nat
  carets : Nat
  deriving DecidableEq

/-- The place of a range of offsets. Only its part on the first line is marked, and at least one
caret is. -/
def Mark.ofRange (source : Text) (start stop : Nat) : Mark :=
  let first := source.floorBoundary start
  let last := source.floorBoundary (max stop first)
  let before := source.takeBytes first
  let marked := (source.slice first last).takeWhile (· ≠ '\n')
  { line := before.count '\n'
    column := (before.reverse.takeWhile (· ≠ '\n')).length
    carets := max marked.length 1 }

/-- The decimal digits of a number. -/
def digits (value : Nat) : Text :=
  (toString value).toList

/-- One line of a frame: its number, and its text without the carriage returns at its end. -/
def renderLine (width index : Nat) (line : Text) : Text :=
  (digits (index + 1)).leftpad width ' ' ++ " | ".toList ++ line.trimReturns ++ ['\n']

/-- The carets under the marked line. -/
def renderCarets (mark : Mark) (width : Nat) : Text :=
  "  ".toList ++ List.replicate width ' ' ++ " | ".toList ++ List.replicate mark.column ' ' ++
    List.replicate mark.carets '^' ++ ['\n']

/-- The lines of a frame from an index on. The marked line is pointed out and has its carets
below it. -/
def renderLines (mark : Mark) (width : Nat) : Nat → List Text → Text
  | _, [] => []
  | index, line :: rest =>
      (if index = mark.line then
        "> ".toList ++ renderLine width index line ++ renderCarets mark width
      else "  ".toList ++ renderLine width index line) ++
        renderLines mark width (index + 1) rest

/-- The heading of a frame. Lines and columns are counted from one. -/
def heading (mark : Mark) : Text :=
  "Unexpected token at ".toList ++ digits (mark.line + 1) ++ ':' :: digits (mark.column + 1) ++
    "\n\n".toList

/-- The frame of a range of offsets. -/
def render (source : Text) (start stop : Nat) : Text :=
  let mark := Mark.ofRange source start stop
  let lines := source.lines
  let first := mark.line - 2
  let last := min (mark.line + 2) (lines.length - 1)
  let width := (digits (last + 1)).length
  heading mark ++ renderLines mark width first ((lines.take (last + 1)).drop first)

end Frame

/-- The code frame of an error in a source text. -/
def SyntaxError.frame (error : SyntaxError) (source : String) : String :=
  String.ofList (Frame.render source.toList error.start error.stop)

end Ecmascript

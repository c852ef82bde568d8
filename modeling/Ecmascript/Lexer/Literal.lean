import Ecmascript.Source
import Ecmascript.Token.Character

/-!
# Literals

Scanners for the tokens of variable length. Each splits a text into what it read and what is left,
so that the two together are the text. A number always succeeds; the delimited literals tell
whether their closing delimiter was found, and read up to where they gave up if not.
-/

set_option autoImplicit false

namespace Ecmascript

open Character

/-- The outcome of reading a delimited literal. When it is not closed, `lexeme` is what was read
before giving up, the offending character included. -/
structure Scan where
  lexeme : Text
  rest : Text
  closed : Bool
  deriving DecidableEq

/-- The scan with further text in front of what it read. -/
def Scan.prepend (front : Text) (scan : Scan) : Scan :=
  { scan with lexeme := front ++ scan.lexeme }

namespace Literal

/-! ## Words and numbers -/

/-- A word: the longest run of identifier characters. -/
def scanWord (text : Text) : Text × Text :=
  text.span isIdentifierPart

/-- The optional suffix of an integer of any size. -/
def scanBigSuffix : Text → Text × Text
  | 'n' :: rest => (['n'], rest)
  | text => ([], text)

/-- The optional fraction: a dot and any digits. -/
def scanFraction : Text → Text × Text
  | '.' :: rest =>
      let (digits, rest) := rest.span isDigitOrSeparator
      ('.' :: digits, rest)
  | text => ([], text)

/-- The optional exponent. It is there only if a digit follows the mark and its sign. -/
def scanExponent : Text → Text × Text
  | [] => ([], [])
  | mark :: rest =>
      if mark = 'e' || mark = 'E' then
        match rest with
        | [] => ([], [mark])
        | next :: more =>
            if isDecimalDigit next then
              let (digits, left) := rest.span isDigitOrSeparator
              (mark :: digits, left)
            else if (next = '+' || next = '-') && more.head?.any isDecimalDigit then
              let (digits, left) := more.span isDigitOrSeparator
              (mark :: next :: digits, left)
            else ([], mark :: rest)
      else ([], mark :: rest)

/-- A decimal number. One that begins with a dot has no second fraction. -/
def scanDecimal : Text → Text × Text
  | [] => ([], [])
  | first :: rest =>
      let (whole, rest) := rest.span isDigitOrSeparator
      let (fraction, rest) := if first = '.' then ([], rest) else scanFraction rest
      let (exponent, rest) := scanExponent rest
      let (suffix, rest) := scanBigSuffix rest
      (first :: whole ++ fraction ++ exponent ++ suffix, rest)

/-- The digits that belong to a radix mark after a leading zero. -/
def radixDigit? (mark : Char) : Option (Char → Bool) :=
  if mark = 'x' || mark = 'X' then some isHexDigit
  else if mark = 'o' || mark = 'O' then some isOctalDigit
  else if mark = 'b' || mark = 'B' then some isBinaryDigit
  else none

/-- A number. After a radix mark there may be no digits at all. -/
def scanNumber (text : Text) : Text × Text :=
  match text with
  | '0' :: mark :: rest =>
      match radixDigit? mark with
      | some isDigit =>
          let (digits, rest) := rest.span fun c => isDigit c || c = '_'
          let (suffix, rest) := scanBigSuffix rest
          ('0' :: mark :: digits ++ suffix, rest)
      | none => scanDecimal text
  | _ => scanDecimal text

/-! ## Delimited literals -/

/-- A string after its opening quote. A backslash escapes the next character, and a carriage
return together with a line feed; an unescaped one of these two ends the attempt. -/
def scanString (quote : Char) : Text → Scan
  | [] => ⟨[], [], false⟩
  | '\\' :: '\r' :: '\n' :: rest => (scanString quote rest).prepend ['\\', '\r', '\n']
  | '\\' :: c :: rest => (scanString quote rest).prepend ['\\', c]
  | c :: rest =>
      if c = quote then ⟨[c], rest, true⟩
      else if c = '\n' || c = '\r' then ⟨[c], rest, false⟩
      else (scanString quote rest).prepend [c]

/-- How a template chunk ends: at the closing backquote, at the beginning of a substitution, or
not at all. -/
inductive ChunkEnd where
  | backquote | substitution | missing
  deriving DecidableEq

/-- A template chunk: its text, how it ends, and what follows the delimiter. -/
structure Chunk where
  raw : Text
  stop : ChunkEnd
  rest : Text
  deriving DecidableEq

/-- The delimiter with which a chunk ends. -/
def ChunkEnd.delimiter : ChunkEnd → Text
  | backquote => ['\x60']
  | substitution => ['$', '\x7b']
  | missing => []

/-- The chunk with further text in front. -/
def Chunk.prepend (front : Text) (chunk : Chunk) : Chunk :=
  { chunk with raw := front ++ chunk.raw }

/-- A template chunk after its opening delimiter. A backslash escapes the next character. -/
def scanChunk : Text → Chunk
  | [] => ⟨[], .missing, []⟩
  | '\x60' :: rest => ⟨[], .backquote, rest⟩
  | '$' :: '\x7b' :: rest => ⟨[], .substitution, rest⟩
  | '\\' :: c :: rest => (scanChunk rest).prepend ['\\', c]
  | c :: rest => (scanChunk rest).prepend [c]

/-- The body of a regular expression after its opening slash, up to the closing one. A slash does
not close inside a class, and a line terminator ends the attempt even after a backslash. -/
def scanRegexBody : Bool → Text → Scan
  | _, [] => ⟨[], [], false⟩
  | inClass, '\\' :: c :: rest =>
      if isLineTerminator c then ⟨['\\', c], rest, false⟩
      else (scanRegexBody inClass rest).prepend ['\\', c]
  | inClass, c :: rest =>
      if c = '/' && !inClass then ⟨[c], rest, true⟩
      else if isLineTerminator c then ⟨[c], rest, false⟩
      else
        let nextInClass := if c = '[' then true else if c = ']' then false else inClass
        (scanRegexBody nextInClass rest).prepend [c]

/-- A regular expression after its opening slash: its body, the closing slash, and its flags. -/
def scanRegex (text : Text) : Scan :=
  let body := scanRegexBody false text
  if body.closed then
    let (flags, rest) := scanWord body.rest
    ⟨body.lexeme ++ flags, rest, true⟩
  else body

end Literal

end Ecmascript

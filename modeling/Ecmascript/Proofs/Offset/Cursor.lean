import Ecmascript.Lexer.Basic
import Ecmascript.Proofs.Source.Bytes
import Mathlib.Data.PFun

/-!
# Reading by offsets

A cursor is a lexer that does not keep what is left of its source: whatever it looks at, it takes
from the source by offsets. Every slice and every index may be out of range, an offset may be too
large for 32 bits, and a loop may go on for ever; a scanner has no result in all these cases.

The scanners stand in the order in which a token is read, and look at the source as often as they
need it and no more. A round of a loop gives the state of the next round on the left, and on the
right what the loop comes to.
-/

set_option autoImplicit false

namespace Ecmascript

open Character

/-- An offset into a source, with what a lexer knows besides. -/
structure Cursor where
  source : Text
  position : Nat
  regexAllowed : Bool
  templates : List Nat
  deriving DecidableEq

/-- A reader that moves a cursor. It has no result when it looks outside of the source. -/
abbrev Scanner := StateT Cursor Part

namespace Cursor

open Lexer

/-! ## Looking at the source -/

def here : Scanner Nat :=
  return (← get).position

variable {α β σ : Type}

/-- Looks for something that may not be there. -/
def look (find : Cursor → Option α) : Scanner α := fun cursor =>
  Part.ofOption ((find cursor).map (·, cursor))

/-- The text between two offsets. -/
def cut (start stop : Nat) : Scanner Text :=
  look fun cursor => cursor.source.cut? start stop

/-- The text from the position on. -/
def ahead : Scanner Text := do
  cut (← here) (← get).source.byteLength

/-- The byte at an offset. -/
def byteAt (offset : Nat) : Scanner UInt8 :=
  look fun cursor => cursor.source.bytes[offset]?

/-- The bytes from an offset on, of which there may be none. -/
def bytesFrom (offset : Nat) : Scanner (List UInt8) :=
  look fun cursor =>
    if offset ≤ cursor.source.bytes.length then some (cursor.source.bytes.drop offset) else none

/-- Moves to an offset that fits into 32 bits. -/
def moveTo (position : Nat) : Scanner Unit := fun cursor =>
  Part.ofOption
    (if position < UInt32.size then some ((), { cursor with position }) else none)

/-- A round of a loop leads from a state and a place to others, or to what the loop comes to. -/
def step (round : σ → Scanner (σ ⊕ β)) : σ × Cursor →. (β × Cursor) ⊕ (σ × Cursor) :=
  fun (state, cursor) => (round state cursor).map fun
    | (.inl state, cursor) => .inr (state, cursor)
    | (.inr value, cursor) => .inl (value, cursor)

/-- Goes from round to round. There is no result if that does not end. -/
def loop (round : σ → Scanner (σ ⊕ β)) (state : σ) : Scanner β := fun cursor =>
  (step round).fix (state, cursor)

def peek : Scanner (Option Char) :=
  return (← ahead).head?

def peekNext : Scanner (Option Char) :=
  return (← ahead).tail.head?

/-- Reads a character, if there is one. -/
def advance : Scanner (Option Char) := do
  match ← peek with
  | none => return none
  | some c =>
      moveTo ((← here) + c.utf8Size)
      return some c

/-- Reads the character that is expected, if it is next. -/
def eat (expected : Char) : Scanner Bool := do
  if (← peek) = some expected then
    let _ ← advance
    return true
  else return false

def advanceWhile (p : Char → Bool) : Scanner Unit :=
  loop (fun _ => do
    if (← peek).any p then
      let _ ← advance
      return .inl ()
    else return .inr ()) ()

/-! ## Blanks and comments -/

/-- Reads to the end of a block comment that began at an offset. -/
def closeComment (start : Nat) : Bool → Scanner (Except LexError Bool) :=
  loop fun newline => do
    match ← advance with
    | none => return .inr (.error (.unterminated .comment start))
    | some c =>
        if c = '*' then
          if ← eat '/' then return .inr (.ok newline)
          else return .inl newline
        else return .inl (newline || isLineTerminator c)

def skipComment (start : Nat) (newline : Bool) : Scanner (Bool ⊕ Except LexError Bool) := do
  match ← closeComment start newline with
  | .error error => return .inr (.error error)
  | .ok newline => return .inl newline

/-- Skips a blank or a comment. Line breaks are remembered from round to round. -/
def skipRound (newline : Bool) : Scanner (Bool ⊕ Except LexError Bool) := do
  match ← peek with
  | none => return .inr (.ok newline)
  | some c =>
      if isLineTerminator c then
        let _ ← advance
        return .inl true
      else if isBlank c then
        let _ ← advance
        return .inl newline
      else if c = '/' then
        match ← peekNext with
        | some '/' =>
            advanceWhile (!isLineTerminator ·)
            return .inl newline
        | some '*' =>
            let start ← here
            let _ ← advance
            let _ ← advance
            skipComment start newline
        | _ => return .inr (.ok newline)
      else return .inr (.ok newline)

def skip : Bool → Scanner (Except LexError Bool) :=
  loop skipRound

/-! ## Words and numbers -/

def scanWord (start : Nat) : Scanner TokenKind := do
  advanceWhile isIdentifierPart
  return wordKind (← cut start (← here))

def rawNumber (start : Nat) : Scanner TokenKind := do
  return .number (String.ofList (← cut start (← here)))

/-- Whether a digit follows the mark of an exponent and its sign. A sign is a single byte, so what
follows it is two bytes ahead of the mark. -/
def digitsFollow : Scanner Bool := do
  match ← peekNext with
  | none => return false
  | some next =>
      if isDecimalDigit next then return true
      else if next = '+' ∨ next = '-' then
        let bytes ← bytesFrom ((← here) + 2)
        return bytes.head?.any Text.isDigitByte
      else return false

/-- Reads a fraction, unless the number that began at an offset begins with a dot. -/
def scanFraction (start : Nat) : Scanner Unit := do
  if (← byteAt start) ≠ 46 then
    if ← eat '.' then advanceWhile isDigitOrSeparator

def eatSign : Scanner Unit := do
  let next ← peek
  if next = some '+' ∨ next = some '-' then
    let _ ← advance

def scanExponent : Scanner Unit := do
  let next ← peek
  if next = some 'e' ∨ next = some 'E' then
    if ← digitsFollow then
      let _ ← advance
      eatSign
      advanceWhile isDigitOrSeparator

def scanDecimal (start : Nat) : Scanner TokenKind := do
  advanceWhile isDigitOrSeparator
  scanFraction start
  scanExponent
  let _ ← eat 'n'
  rawNumber start

def scanNumber (start : Nat) : Scanner TokenKind := do
  if (← byteAt start) = 48 then
    match (← peek).bind Literal.radixDigit? with
    | some isDigit =>
        let _ ← advance
        advanceWhile fun c => isDigit c || c = '_'
        let _ ← eat 'n'
        rawNumber start
    | none => scanDecimal start
  else scanDecimal start

/-! ## Delimited literals -/

/-- Reads what a backslash escapes, a carriage return together with a line feed. -/
def eatEscaped : Scanner Unit := do
  if (← advance) = some '\r' then
    let _ ← eat '\n'

/-- Reads to the closing quote of a string that began at an offset. -/
def closeString (quote : Char) (start : Nat) : Scanner (Except LexError Unit) :=
  loop (fun _ => do
    match ← advance with
    | none => return .inr (.error (.unterminated .string start))
    | some c =>
        if c = quote then return .inr (.ok ())
        else if c = '\\' then
          eatEscaped
          return .inl ()
        else if c = '\n' ∨ c = '\r' then return .inr (.error (.unterminated .string start))
        else return .inl ()) ()

def scanString (quote : Char) (start : Nat) : Scanner (Except LexError TokenKind) := do
  match ← closeString quote start with
  | .error error => return .error error
  | .ok _ => return .ok (.string (String.ofList (← cut start (← here))))

/-- Reads a template chunk whose text begins at an offset. -/
def scanTemplate (start body : Nat) (isFirst : Bool) : Scanner (Except LexError TokenKind) :=
  loop (fun _ => do
    match ← peek with
    | none => return .inr (.error (.unterminated .template start))
    | some c =>
        if c = '\x60' then
          let raw ← cut body (← here)
          let _ ← advance
          return .inr (.ok (.template (templatePart isFirst true) (String.ofList raw)))
        else if c = '$' then
          if (← peekNext) = some '\x7b' then
            let raw ← cut body (← here)
            let _ ← advance
            let _ ← advance
            modify fun cursor => { cursor with templates := 0 :: cursor.templates }
            return .inr (.ok (.template (templatePart isFirst false) (String.ofList raw)))
          else
            let _ ← advance
            return .inl ()
        else if c = '\\' then
          let _ ← advance
          let _ ← advance
          return .inl ()
        else
          let _ ← advance
          return .inl ()) ()

/-- Reads to the closing slash of a regular expression that began at an offset. -/
def closeRegex (start : Nat) : Bool → Scanner (Except LexError Unit) :=
  loop fun inClass => do
    match ← advance with
    | none => return .inr (.error (.unterminated .regularExpression start))
    | some c =>
        if c = '\\' then
          match ← advance with
          | none => return .inr (.error (.unterminated .regularExpression start))
          | some escaped =>
              if isLineTerminator escaped then
                return .inr (.error (.unterminated .regularExpression start))
              else return .inl inClass
        else if c = '[' then return .inl true
        else if c = ']' then return .inl false
        else if c = '/' && !inClass then return .inr (.ok ())
        else if isLineTerminator c then
          return .inr (.error (.unterminated .regularExpression start))
        else return .inl inClass

def scanRegex (start : Nat) : Scanner (Except LexError TokenKind) := do
  match ← closeRegex start false with
  | .error error => return .error error
  | .ok _ =>
      advanceWhile isIdentifierPart
      return .ok (.regex (String.ofList (← cut start (← here))))

/-! ## Punctuators -/

/-- How a punctuator is read after its first character: it ends here, or goes on in one of two ways
by whether a character is next. -/
inductive Choice where
  | done (mark : Punctuator)
  | eat (expected : Char) (yes no : Choice)

def Choice.scan : Choice → Scanner Punctuator
  | .done mark => return mark
  | .eat expected yes no => do if ← Cursor.eat expected then yes.scan else no.scan

/-- The choice after a slash that does not begin a regular expression. -/
def division : Choice :=
  .eat '=' (.done .slashAssign) (.done .slash)

/-- The choices after each first character, but for a dot and a question mark. -/
def choices : List (Char × Choice) :=
  [('\x7b', .done .leftBrace), ('\x7d', .done .rightBrace), ('(', .done .leftParen),
  (')', .done .rightParen), ('[', .done .leftBracket), (']', .done .rightBracket),
  (';', .done .semicolon), (',', .done .comma), (':', .done .colon), ('~', .done .tilde),
  ('+', .eat '+' (.done .increment) (.eat '=' (.done .plusAssign) (.done .plus))),
  ('-', .eat '-' (.done .decrement) (.eat '=' (.done .minusAssign) (.done .minus))),
  ('*', .eat '*' (.eat '=' (.done .powerAssign) (.done .power))
    (.eat '=' (.done .starAssign) (.done .star))),
  ('/', division),
  ('%', .eat '=' (.done .percentAssign) (.done .percent)),
  ('<', .eat '<' (.eat '=' (.done .leftShiftAssign) (.done .leftShift))
    (.eat '=' (.done .lessEqual) (.done .less))),
  ('>', .eat '>' (.eat '>' (.eat '=' (.done .unsignedRightShiftAssign) (.done .unsignedRightShift))
      (.eat '=' (.done .rightShiftAssign) (.done .rightShift)))
    (.eat '=' (.done .greaterEqual) (.done .greater))),
  ('=', .eat '=' (.eat '=' (.done .strictEqual) (.done .equal))
    (.eat '>' (.done .arrow) (.done .assign))),
  ('!', .eat '=' (.eat '=' (.done .strictNotEqual) (.done .notEqual)) (.done .bang)),
  ('&', .eat '&' (.eat '=' (.done .logicalAndAssign) (.done .logicalAnd))
    (.eat '=' (.done .ampersandAssign) (.done .ampersand))),
  ('|', .eat '|' (.eat '=' (.done .logicalOrAssign) (.done .logicalOr))
    (.eat '=' (.done .pipeAssign) (.done .pipe))),
  ('^', .eat '=' (.done .caretAssign) (.done .caret))]

/-- Reads a dot, an ellipsis, or a number that begins with a dot. -/
def scanDot (start : Nat) : Scanner TokenKind := do
  let next ← peek
  if next = some '.' then
    if (← peekNext) = some '.' then
      let _ ← advance
      let _ ← advance
      return .punctuator .ellipsis
    else return .punctuator .dot
  else if next.any isDecimalDigit then scanDecimal start
  else return .punctuator .dot

/-- Reads what begins with a question mark. Before a digit, `?.` is no optional chain. -/
def scanQuestion : Scanner Punctuator := do
  if ← eat '?' then
    if ← eat '=' then return .nullishAssign
    else return .nullish
  else if (← peek) = some '.' then
    if (← peekNext).any isDecimalDigit then return .question
    else
      let _ ← advance
      return .optionalChain
  else return .question

/-- Reads a punctuator whose first character stands at an offset. -/
def scanPunctuator (first : Char) (start : Nat) : Scanner (Except LexError TokenKind) := do
  match choices.find? fun entry => entry.1 = first with
  | some (_, choice) =>
      let mark ← choice.scan
      modify fun cursor => { cursor with templates := countBrace mark cursor.templates }
      return .ok (.punctuator mark)
  | none => return .error (.unexpectedCharacter first start)

/-! ## Tokens -/

/-- Reads the token that begins with a character that was read at an offset. -/
def scanKind (first : Char) (start : Nat) : Scanner (Except LexError TokenKind) := do
  if isIdentifierStart first then return .ok (← scanWord start)
  else if isDecimalDigit first then return .ok (← scanNumber start)
  else if first = '"' ∨ first = '\'' then scanString first start
  else if first = '\x60' then scanTemplate start (← here) true
  else if first = '\x7d' ∧ (← get).templates.head? = some 0 then
    modify fun cursor => { cursor with templates := cursor.templates.tail }
    scanTemplate start (← here) false
  else if first = '.' then return .ok (← scanDot start)
  else if first = '?' then return .ok (.punctuator (← scanQuestion))
  else if first = '/' ∧ (← get).regexAllowed then
    let body ← here
    match ← scanRegex start with
    | .ok kind => return .ok kind
    | .error _ =>
        moveTo body
        scanPunctuator first start
  else scanPunctuator first start

def next : Scanner (Except LexError Token) := do
  match ← skip false with
  | .error error => return .error error
  | .ok newline =>
      let start ← here
      match ← advance with
      | none =>
          return .ok { kind := .endOfInput, start, stop := start, newlineBefore := true }
      | some first =>
          match ← scanKind first start with
          | .error error => return .error error
          | .ok kind =>
              modify fun cursor => { cursor with regexAllowed := !kind.endsOperand }
              return .ok { kind, start, stop := ← here, newlineBefore := newline }

/-- Reads a token behind others. -/
def tokensRound (read : List Token) : Scanner (List Token ⊕ Except LexError (List Token)) := do
  match ← next with
  | .error error => return .inr (.error error)
  | .ok token =>
      if token.kind = .endOfInput then return .inr (.ok (read ++ [token]))
      else return .inl (read ++ [token])

/-- Reads all tokens that are left. -/
def tokens : Scanner (Except LexError (List Token)) :=
  loop tokensRound []

/-- Reads a token that begins with a slash again, as a regular expression. -/
def rescanRegex (token : Token) : Scanner (Except LexError Token) := do
  moveTo (token.start + 1)
  match ← scanRegex token.start with
  | .error error => return .error error
  | .ok kind =>
      modify fun cursor => { cursor with regexAllowed := false }
      return .ok { token with kind, stop := ← here }

/-- Reads a token that begins with a slash again, as a division. -/
def rescanDivide (token : Token) : Scanner Token := do
  moveTo (token.start + 1)
  let mark ← division.scan
  modify fun cursor => { cursor with regexAllowed := true }
  return { token with kind := .punctuator mark, stop := ← here }

end Cursor

end Ecmascript

import Ecmascript.Json.Basic

/-!
# Reading JSON

A strict reader: white space is space, tab, line feed and carriage return, numbers have no
superfluous zero, strings hold no raw control character, and nothing but white space follows the
value. Escapes are checked for their form only; what they spell is asked by `Json.decode?`.
-/

set_option autoImplicit false

namespace Ecmascript.Json

/-- The characters that may stand between the parts of a value. -/
def isBlank (c : Char) : Bool :=
  c = ' ' || c = '\t' || c = '\n' || c = '\r'

/-- The text after its leading white space. -/
def skipBlanks (text : Text) : Text :=
  text.dropWhile isBlank

/-- Reads a string body up to the closing quote. -/
def readBody : Text → Option (Text × Text)
  | [] => none
  | '"' :: rest => some ([], rest)
  | '\\' :: 'u' :: a :: b :: c :: d :: rest => do
      let _ ← hexUnit? a b c d
      let (body, rest) ← readBody rest
      return ('\\' :: 'u' :: a :: b :: c :: d :: body, rest)
  | '\\' :: c :: rest => do
      let _ ← shortEscape? c
      let (body, rest) ← readBody rest
      return ('\\' :: c :: body, rest)
  | c :: rest => do
      if c = '\\' || c.toNat < 0x20 then none
      else
        let (body, rest) ← readBody rest
        return (c :: body, rest)

/-- Reads a string behind its opening quote. -/
def readString (text : Text) : Option (String × Text) := do
  let (body, rest) ← readBody text
  return (String.ofList body, rest)

/-- Reads one decimal digit or more. -/
def readDigits (text : Text) : Option (Text × Text) :=
  match text.span Char.isDigit with
  | ([], _) => none
  | (digits, rest) => some (digits, rest)

/-- Reads the whole part of a number. -/
def readWhole : Text → Option (Text × Text)
  | '0' :: rest => some (['0'], rest)
  | text => readDigits text

/-- Reads an optional fraction. -/
def readFraction : Text → Option (Text × Text)
  | '.' :: rest => do
      let (digits, rest) ← readDigits rest
      return ('.' :: digits, rest)
  | text => some ([], text)

/-- Reads an optional sign. -/
def readSign : Text → Text × Text
  | '+' :: rest => (['+'], rest)
  | '-' :: rest => (['-'], rest)
  | text => ([], text)

/-- Reads an optional exponent. -/
def readExponent : Text → Option (Text × Text)
  | [] => some ([], [])
  | mark :: rest =>
      if mark = 'e' || mark = 'E' then do
        let (sign, rest) := readSign rest
        let (digits, rest) ← readDigits rest
        return (mark :: sign ++ digits, rest)
      else some ([], mark :: rest)

/-- Reads a number. -/
def readNumber (text : Text) : Option (Json × Text) := do
  let (sign, rest) :=
    match text with
    | '-' :: rest => (['-'], rest)
    | _ => ([], text)
  let (whole, rest) ← readWhole rest
  let (fraction, rest) ← readFraction rest
  let (exponent, rest) ← readExponent rest
  return (number (String.ofList (sign ++ whole ++ fraction ++ exponent)), rest)

/-- Reads one of the words that are values. -/
def readWord (text : Text) : Option (Json × Text) :=
  match text with
  | 'n' :: 'u' :: 'l' :: 'l' :: rest => some (null, rest)
  | 't' :: 'r' :: 'u' :: 'e' :: rest => some (boolean true, rest)
  | 'f' :: 'a' :: 'l' :: 's' :: 'e' :: rest => some (boolean false, rest)
  | _ => none

mutual

/-- Reads a value after its leading white space, with a bound on the steps. -/
def readValue : Nat → Text → Option (Json × Text)
  | 0, _ => none
  | fuel + 1, text =>
      match skipBlanks text with
      | [] => none
      | '"' :: rest => do
          let (body, rest) ← readString rest
          return (string body, rest)
      | '[' :: rest =>
          match skipBlanks rest with
          | ']' :: rest => some (array [], rest)
          | rest => do
              let (items, rest) ← readItems fuel rest
              return (array items, rest)
      | '\x7b' :: rest =>
          match skipBlanks rest with
          | '\x7d' :: rest => some (object [], rest)
          | rest => do
              let (fields, rest) ← readFields fuel rest
              return (object fields, rest)
      | first :: rest =>
          if first = '-' || first.isDigit then readNumber (first :: rest)
          else readWord (first :: rest)

/-- Reads one item or more, and the bracket that closes them. -/
def readItems : Nat → Text → Option (List Json × Text)
  | 0, _ => none
  | fuel + 1, text => do
      let (item, rest) ← readValue fuel text
      match skipBlanks rest with
      | ',' :: rest =>
          let (items, rest) ← readItems fuel rest
          return (item :: items, rest)
      | ']' :: rest => return ([item], rest)
      | _ => none

/-- Reads one field or more, and the brace that closes them. -/
def readFields : Nat → Text → Option (List (String × Json) × Text)
  | 0, _ => none
  | fuel + 1, text => do
      let '"' :: rest := skipBlanks text | none
      let (name, rest) ← readString rest
      let ':' :: rest := skipBlanks rest | none
      let (value, rest) ← readValue fuel rest
      match skipBlanks rest with
      | ',' :: rest =>
          let (fields, rest) ← readFields fuel rest
          return ((name, value) :: fields, rest)
      | '\x7d' :: rest => return ([(name, value)], rest)
      | _ => none

end

/-- Reads a text that is one value. Every step takes at least a character or is followed by one
that does, so twice the length bounds the steps. -/
def parse? (text : String) : Option Json := do
  let characters := text.toList
  let (value, rest) ← readValue (2 * characters.length + 2) characters
  if (skipBlanks rest).isEmpty then some value else none

end Ecmascript.Json

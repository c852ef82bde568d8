import Ecmascript.Source

/-!
# JSON values

JSON values as they are written. Numbers keep their digits, and strings keep their escaped body,
so that a value never claims more than its text: a body may spell a lone surrogate, which no
character stands for. `Json.text` escapes a text, and `Json.decode?` reads a body back.

The fields of an object keep their order, and a name may occur twice.
-/

set_option autoImplicit false

namespace Ecmascript

/-- A JSON value. Strings and names are escaped bodies, numbers are digits. -/
inductive Json where
  | null
  | boolean (value : Bool)
  | number (raw : String)
  | string (body : String)
  | array (items : List Json)
  | object (fields : List (String × Json))

namespace Json

/-! ## Escapes -/

/-- The lower-case hexadecimal digit of a number below sixteen. -/
def hexDigit (value : Nat) : Char :=
  if value < 10 then Char.ofNat (48 + value) else Char.ofNat (87 + value)

/-- The value of a hexadecimal digit in either case. -/
def hexValue? (c : Char) : Option Nat :=
  if '0' ≤ c && c ≤ '9' then some (c.toNat - 48)
  else if 'a' ≤ c && c ≤ 'f' then some (c.toNat - 87)
  else if 'A' ≤ c && c ≤ 'F' then some (c.toNat - 55)
  else none

/-- How a character is written in a string: quotes, backslashes and controls are escaped, all else
stands for itself. -/
def escapeCharacter (c : Char) : Text :=
  if c = '"' then ['\\', '"']
  else if c = '\\' then ['\\', '\\']
  else if c = '\x08' then ['\\', 'b']
  else if c = '\x0c' then ['\\', 'f']
  else if c = '\n' then ['\\', 'n']
  else if c = '\r' then ['\\', 'r']
  else if c = '\t' then ['\\', 't']
  else if c.toNat < 0x20 then
    ['\\', 'u', '0', '0', hexDigit (c.toNat / 16), hexDigit (c.toNat % 16)]
  else [c]

/-- The body of the string that spells a text. -/
def escape (text : String) : String :=
  String.ofList (text.toList.flatMap escapeCharacter)

/-- The number that four hexadecimal digits spell. -/
def hexUnit? (a b c d : Char) : Option Nat := do
  let a ← hexValue? a
  let b ← hexValue? b
  let c ← hexValue? c
  let d ← hexValue? d
  return ((a * 16 + b) * 16 + c) * 16 + d

/-- The character that a backslash and a letter stand for. -/
def shortEscape? (c : Char) : Option Char :=
  if c = '"' || c = '\\' || c = '/' then some c
  else if c = 'b' then some '\x08'
  else if c = 'f' then some '\x0c'
  else if c = 'n' then some '\n'
  else if c = 'r' then some '\r'
  else if c = 't' then some '\t'
  else none

/-- The characters that a string body spells. There are none for a body with a lone surrogate,
or with a backslash that begins no escape. -/
def decodeBody : Text → Option Text
  | [] => some []
  | '\\' :: 'u' :: a :: b :: c :: d :: rest => do
      let unit ← hexUnit? a b c d
      if 0xd800 ≤ unit && unit < 0xdc00 then
        match rest with
        | '\\' :: 'u' :: e :: f :: g :: h :: rest =>
            let low ← hexUnit? e f g h
            if 0xdc00 ≤ low && low < 0xe000 then
              let tail ← decodeBody rest
              return Char.ofNat (0x10000 + (unit - 0xd800) * 0x400 + (low - 0xdc00)) :: tail
            else none
        | _ => none
      else if 0xdc00 ≤ unit && unit < 0xe000 then none
      else
        let tail ← decodeBody rest
        return Char.ofNat unit :: tail
  | '\\' :: c :: rest => do
      let character ← shortEscape? c
      let tail ← decodeBody rest
      return character :: tail
  | c :: rest => do
      if c = '\\' then none
      else
        let tail ← decodeBody rest
        return c :: tail
termination_by structural text => text

/-- The text that a string body spells. -/
def decode? (body : String) : Option String :=
  (decodeBody body.toList).map String.ofList

/-! ## Building values -/

/-- The string that spells a text. -/
def text (value : String) : Json :=
  string (escape value)

/-- A natural number. -/
def nat (value : Nat) : Json :=
  number (toString value)

/-! ## Looking into values -/

/-- The value of the last field with a name. -/
def field? (name : String) : Json → Option Json
  | object fields => (fields.reverse.find? fun field => decode? field.1 == some name).map Prod.snd
  | _ => none

/-- The text of a string. -/
def text? : Json → Option String
  | string body => decode? body
  | _ => none

/-- The items of an array. -/
def items? : Json → Option (List Json)
  | array items => some items
  | _ => none

/-- The truth value of a boolean. -/
def boolean? : Json → Option Bool
  | boolean value => some value
  | _ => none

/-- The number that consists of decimal digits only. -/
def nat? : Json → Option Nat
  | number raw => if raw.toList.all Char.isDigit then raw.toNat? else none
  | _ => none

end Json

end Ecmascript

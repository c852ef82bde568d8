import Ecmascript.Json.Basic

/-!
# Writing JSON

The compact form has no white space at all. The indented form puts every item and field on a line
of its own, two spaces further in for each level, with a space after the colon; empty arrays and
objects stay closed. Both write in front of a tail, so that writing takes time in proportion to
the output.
-/

set_option autoImplicit false

namespace Ecmascript.Json

/-- Writes a quoted string body. -/
def writeString (body : String) (tail : Text) : Text :=
  '"' :: (body.toList ++ '"' :: tail)

mutual

/-- Writes a value without white space. -/
def writeCompact : Json → Text → Text
  | null, tail => "null".toList ++ tail
  | boolean true, tail => "true".toList ++ tail
  | boolean false, tail => "false".toList ++ tail
  | number raw, tail => raw.toList ++ tail
  | string body, tail => writeString body tail
  | array items, tail => '[' :: writeCompactItems items (']' :: tail)
  | object fields, tail => '\x7b' :: writeCompactFields fields ('\x7d' :: tail)

/-- Writes items with commas between them. -/
def writeCompactItems : List Json → Text → Text
  | [], tail => tail
  | [item], tail => writeCompact item tail
  | item :: next :: rest, tail =>
      writeCompact item (',' :: writeCompactItems (next :: rest) tail)

/-- Writes fields with commas between them. -/
def writeCompactFields : List (String × Json) → Text → Text
  | [], tail => tail
  | [field], tail => writeCompactField field tail
  | field :: next :: rest, tail =>
      writeCompactField field (',' :: writeCompactFields (next :: rest) tail)

/-- Writes a name and its value. -/
def writeCompactField : String × Json → Text → Text
  | (name, value), tail => writeString name (':' :: writeCompact value tail)

end

/-- Begins a new line at a level of indentation. -/
def newLine (level : Nat) (tail : Text) : Text :=
  '\n' :: (List.replicate (2 * level) ' ' ++ tail)

mutual

/-- Writes a value with its parts on lines of their own. -/
def writeIndented (level : Nat) : Json → Text → Text
  | null, tail => "null".toList ++ tail
  | boolean true, tail => "true".toList ++ tail
  | boolean false, tail => "false".toList ++ tail
  | number raw, tail => raw.toList ++ tail
  | string body, tail => writeString body tail
  | array [], tail => '[' :: ']' :: tail
  | array (item :: rest), tail =>
      '[' :: writeIndentedItems (level + 1) (item :: rest) (newLine level (']' :: tail))
  | object [], tail => '\x7b' :: '\x7d' :: tail
  | object (field :: rest), tail =>
      '\x7b' ::
        writeIndentedFields (level + 1) (field :: rest) (newLine level ('\x7d' :: tail))

/-- Writes items on lines of their own, with commas between them. -/
def writeIndentedItems (level : Nat) : List Json → Text → Text
  | [], tail => tail
  | [item], tail => newLine level (writeIndented level item tail)
  | item :: next :: rest, tail =>
      newLine level
        (writeIndented level item (',' :: writeIndentedItems level (next :: rest) tail))

/-- Writes fields on lines of their own, with commas between them. -/
def writeIndentedFields (level : Nat) : List (String × Json) → Text → Text
  | [], tail => tail
  | [field], tail => newLine level (writeIndentedField level field tail)
  | field :: next :: rest, tail =>
      newLine level
        (writeIndentedField level field (',' :: writeIndentedFields level (next :: rest) tail))

/-- Writes a name and its value. -/
def writeIndentedField (level : Nat) : String × Json → Text → Text
  | (name, value), tail => writeString name (':' :: ' ' :: writeIndented level value tail)

end

/-- The text of a value without white space. -/
def compact (value : Json) : String :=
  String.ofList (writeCompact value [])

/-- The text of a value with its parts on lines of their own. -/
def indented (value : Json) : String :=
  String.ofList (writeIndented 0 value [])

end Ecmascript.Json

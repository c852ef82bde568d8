import Ecmascript.Record.Basic

/-!
# Writing records

The compact form is one line. The indented form gives every argument, item and field a line of its
own, four spaces further in for each level and with a comma after each; an empty list stays closed.
Text is quoted with escapes for all that would not show as itself. Both forms write in front of a
tail, so that writing takes time in proportion to the output.
-/

set_option autoImplicit false

namespace Ecmascript.Record

/-- How a character of quoted text is written. -/
def escapeCharacter (c : Char) : Text :=
  if c = '\x00' then ['\\', '0']
  else if c = '\t' then ['\\', 't']
  else if c = '\r' then ['\\', 'r']
  else if c = '\n' then ['\\', 'n']
  else if c = '"' then ['\\', '"']
  else if c = '\\' then ['\\', '\\']
  else if Unicode.isShowable c then [c]
  else '\\' :: 'u' :: '\x7b' :: (Nat.toDigits 16 c.toNat ++ ['\x7d'])

/-- Writes text between quotes. -/
def writeQuoted (text : String) (tail : Text) : Text :=
  '"' :: (text.toList.flatMap escapeCharacter ++ '"' :: tail)

/-- Writes a record on one line. Items and fields are separated by a comma and a space. -/
def writeCompact : {sort : Record.Sort} → Record sort → Text → Text
  | _, .word name, tail => name.toList ++ tail
  | _, .quoted text, tail => writeQuoted text tail
  | _, .tagged name argument, tail =>
      name.toList ++ '(' :: argument.writeCompact (')' :: tail)
  | _, .struct name fields, tail =>
      name.toList ++ ' ' :: '\x7b' :: ' ' :: fields.writeCompact (' ' :: '\x7d' :: tail)
  | _, .list items, tail => '[' :: items.writeCompact (']' :: tail)
  | _, .noItems, tail => tail
  | _, .item head .noItems, tail => head.writeCompact tail
  | _, .item head (.item next rest), tail =>
      head.writeCompact (',' :: ' ' :: (Record.item next rest).writeCompact tail)
  | _, .noFields, tail => tail
  | _, .field label value .noFields, tail => label.toList ++ ':' :: ' ' :: value.writeCompact tail
  | _, .field label value (.field next nextValue rest), tail =>
      label.toList ++ ':' :: ' ' ::
        value.writeCompact (',' :: ' ' :: (Record.field next nextValue rest).writeCompact tail)

/-- Begins a new line at a level of indentation. -/
def newLine (level : Nat) (tail : Text) : Text :=
  '\n' :: (List.replicate (4 * level) ' ' ++ tail)

/-- Writes a record over several lines. Items and fields each begin a line at the given level. -/
def writeIndented : {sort : Record.Sort} → Nat → Record sort → Text → Text
  | _, _, .word name, tail => name.toList ++ tail
  | _, _, .quoted text, tail => writeQuoted text tail
  | _, level, .tagged name argument, tail =>
      name.toList ++ '(' :: newLine (level + 1)
        (argument.writeIndented (level + 1) (',' :: newLine level (')' :: tail)))
  | _, level, .struct name fields, tail =>
      name.toList ++ ' ' :: '\x7b' ::
        fields.writeIndented (level + 1) (newLine level ('\x7d' :: tail))
  | _, _, .list .noItems, tail => '[' :: ']' :: tail
  | _, level, .list items, tail =>
      '[' :: items.writeIndented (level + 1) (newLine level (']' :: tail))
  | _, _, .noItems, tail => tail
  | _, level, .item head rest, tail =>
      newLine level (head.writeIndented level (',' :: rest.writeIndented level tail))
  | _, _, .noFields, tail => tail
  | _, level, .field label value rest, tail =>
      newLine level (label.toList ++ ':' :: ' ' ::
        value.writeIndented level (',' :: rest.writeIndented level tail))

/-- The text of a record on one line. -/
def compact (record : Record .value) : String :=
  String.ofList (record.writeCompact [])

/-- The text of a record over several lines. -/
def indented (record : Record .value) : String :=
  String.ofList (record.writeIndented 0 [])

end Ecmascript.Record

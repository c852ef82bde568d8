/-!
# Source text and byte offsets

Source text is a list of characters. Positions in it are byte offsets into its UTF-8 encoding, so
an offset is a *boundary* of the text when some initial part of the text has exactly that many
bytes. All functions here are total: an offset inside a character is moved to a boundary, and an
offset past the end to the end.
-/

set_option autoImplicit false

namespace Ecmascript

/-- Source text, one entry per character. -/
abbrev Text := List Char

namespace Text

/-- The number of bytes of the UTF-8 encoding. -/
def byteLength : Text → Nat
  | [] => 0
  | c :: rest => c.utf8Size + byteLength rest

/-- The text from a byte offset on. An offset inside a character counts as the end of that
character. -/
def dropBytes : Nat → Text → Text
  | 0, text => text
  | _ + 1, [] => []
  | offset + 1, c :: rest => dropBytes (offset + 1 - c.utf8Size) rest

/-- The longest initial part with at most the given number of bytes. -/
def takeBytes : Nat → Text → Text
  | _, [] => []
  | offset, c :: rest =>
      if c.utf8Size ≤ offset then c :: takeBytes (offset - c.utf8Size) rest else []

/-- The text between two byte offsets that are boundaries. -/
def slice (start stop : Nat) (text : Text) : Text :=
  takeBytes (stop - start) (dropBytes start text)

/-- The largest boundary that is not above an offset. -/
def floorBoundary (offset : Nat) (text : Text) : Nat :=
  (takeBytes offset text).byteLength

end Text

end Ecmascript

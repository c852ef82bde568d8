import Ecmascript.Estree.Node
import Ecmascript.Proofs.Cover.Literal
import Ecmascript.Proofs.Lexer.Delimited

/-!
# Regular expressions of accepted scripts

The lexer finds the end of a regular expression from its beginning on, with an eye on backslashes
and classes. In a document the pattern and the flags are told apart by the last slash. The two are
the same slash: no flag is one, and what the lexer reads as flags are the characters of a word. The
pattern is not empty, since two slashes in a row begin a comment before they could be anything else.
-/

set_option autoImplicit false

namespace Ecmascript

open Character

/-! ## Splitting -/

/-- A regular expression at an offset of a source is a pattern between two slashes and flags, and
the second slash is the one at which its body ends. -/
structure Text.SplitsRegex (source : Text) (offset : Nat) (raw pattern flags : String) : Prop where
  whole : raw = "/" ++ pattern ++ "/" ++ flags
  filled : pattern ≠ ""
  word : ∀ c ∈ flags.toList, isIdentifierPart c = true
  closing : ∃ before rest left, source = before ++ '/' :: rest ∧ offset = before.byteLength ∧
    Literal.scanRegexBody false rest = ⟨pattern.toList ++ ['/'], flags.toList ++ left, true⟩

end Ecmascript

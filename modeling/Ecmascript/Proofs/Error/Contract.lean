import Ecmascript.Error.Basic
import Ecmascript.Proofs.Lexer.Fault
import Ecmascript.Proofs.Lexer.Lossless

/-!
# What syntax errors report

The contract of syntax errors: how their messages begin, which offset the messages name, and what
stands in the source between the two offsets. An error keeps to the contract when it points at a
token of the source, at a phrase between two characters, or at what a lexical error points at.
-/

set_option autoImplicit false

namespace Ecmascript

open Character

/-! ## Messages -/

/-- A message that is put together from parts begins like its first part. -/
theorem append_of_begins {first front back : String} (begins : first = front ++ back)
    (rest : String) : first ++ rest = front ++ (back ++ rest) := by
  rw [begins, String.append_assoc]

/-- A message that is put together from parts holds the end of a part and the part behind it. -/
theorem append_of_ends {first front back : String} (ends : first = front ++ back)
    (before rest : String) : before ++ first ++ rest = before ++ front ++ (back ++ rest) := by
  rw [ends, String.append_assoc, String.append_assoc, String.append_assoc]

namespace LexError

/-- The message of a lexical error ends with its offset. -/
theorem message_names (error : LexError) :
    ∃ before, error.message = before ++ ("at " ++ toString error.position) := by
  cases error with
  | unexpectedCharacter character position =>
      have split : "` at " = "` " ++ "at " := by decide
      exact ⟨_, append_of_ends split _ _⟩
  | unterminated what start =>
      have split : " starting at " = " starting " ++ "at " := by decide
      exact ⟨_, append_of_ends split _ _⟩

end LexError

namespace SyntaxError

theorem message_begins (error : SyntaxError) :
    ∃ rest, error.message = "Unexpected token" ++ rest := by
  have spaced : "Unexpected token " = "Unexpected token" ++ " " := by decide
  cases error with
  | lexical error =>
      have split : "Unexpected token: " = "Unexpected token" ++ ": " := by decide
      exact ⟨_, append_of_begins split _⟩
  | unexpected token text =>
      exact ⟨_, append_of_begins (append_of_begins (append_of_begins spaced _) _) _⟩
  | reserved token text =>
      exact ⟨_, append_of_begins
        (append_of_begins (append_of_begins (append_of_begins spaced _) _) _) _⟩
  | invalid start stop reason =>
      have split : "Unexpected token at " = "Unexpected token" ++ " at " := by decide
      exact ⟨_, append_of_begins (append_of_begins (append_of_begins split _) _) _⟩

/-- Every message names the offset at which the fault begins, and no digit follows it. -/
theorem message_names (error : SyntaxError) :
    ∃ before after, error.message = before ++ ("at " ++ toString error.start) ++ after ∧
      Text.Stops isDecimalDigit after.toList := by
  have split : " at " = " " ++ "at " := by decide
  cases error with
  | lexical error =>
      obtain ⟨before, names⟩ := error.message_names
      have whole : (lexical error).message =
          "Unexpected token: " ++ (before ++ ("at " ++ toString error.position)) :=
        congrArg ("Unexpected token: " ++ ·) names
      refine ⟨"Unexpected token: " ++ before, "", ?_, .nil⟩
      rw [whole, String.append_empty, String.append_assoc]
      rfl
  | unexpected token text =>
      exact ⟨_, "", (append_of_ends split _ _).trans String.append_empty.symm, .nil⟩
  | reserved token text => exact ⟨_, _, congrArg (· ++ _) (append_of_ends split _ _), .cons rfl⟩
  | invalid start stop reason =>
      have split : "Unexpected token at " = "Unexpected token " ++ "at " := by decide
      refine ⟨"Unexpected token ", ": " ++ reason.message, ?_, ?_⟩
      · exact (congrArg (· ++ ": " ++ reason.message) (append_of_begins split _)).trans
          String.append_assoc
      · rw [String.toList_append]
        exact .cons rfl

end SyntaxError

/-! ## Positions -/

/-- Tokens that are reserved somewhere: keywords, `yield` and `await`. -/
inductive TokenKind.Reserved : TokenKind → Prop
  | keyword (word : Keyword) : Reserved (.keyword word)
  | yield : Reserved (.identifier "yield")
  | await : Reserved (.identifier "await")

theorem LexError.At.boundary {source : Text} {error : LexError} (fault : error.At source) :
    source.IsBoundary error.position := by
  cases fault with
  | unexpectedCharacter whole _ => exact ⟨_, _, whole, rfl⟩
  | comment whole _ => exact ⟨_, _, whole, rfl⟩
  | string _ whole _ => exact ⟨_, _, whole, rfl⟩
  | template whole _ => exact ⟨_, _, whole, rfl⟩
  | chunk whole _ _ => exact ⟨_, _, whole, rfl⟩
  | regularExpression whole _ => exact ⟨_, _, whole, rfl⟩

theorem Token.Written.forward {source : Text} {token : Token} (written : token.Written source) :
    token.start ≤ token.stop :=
  written.stop ▸ Nat.le_add_right _ _

namespace SyntaxError

/-- An error points at something in a source. -/
inductive At (source : Text) : SyntaxError → Prop
  | lexical {error : LexError} (fault : error.At source) : At source (.lexical error)
  | unexpected {token : Token} {text : String} (written : token.Written source) :
      At source (.unexpected token text)
  | reserved {token : Token} {text : String} (written : token.Written source)
      (word : token.kind.Reserved) : At source (.reserved token text)
  | invalid {start stop : Nat} {reason : Invalidity} (forward : start ≤ stop)
      (first : source.IsBoundary start) (last : source.IsBoundary stop) :
      At source (.invalid start stop reason)

/-- What an error says about a source. -/
structure Reports (source : Text) (error : SyntaxError) : Prop where
  begins : ∃ rest, error.message = "Unexpected token" ++ rest
  names : ∃ before after, error.message = before ++ ("at " ++ toString error.start) ++ after ∧
    Text.Stops isDecimalDigit after.toList
  forward : error.start ≤ error.stop
  within : error.stop ≤ source.byteLength
  first : source.IsBoundary error.start
  last : source.IsBoundary error.stop
  character : error.kind = .unexpectedCharacter →
    error.stop = error.start ∧ ∃ fault : LexError, error = .lexical fault ∧ fault.At source
  word : error.kind = .reservedWordMisuse →
    (∃ word : Keyword, source.slice error.start error.stop = word.spelling.toList) ∨
      source.slice error.start error.stop = "yield".toList ∨
      source.slice error.start error.stop = "await".toList

/-- The text of a reserved token is a keyword, `yield` or `await`. -/
theorem slice_reserved {source : Text} {token : Token} (written : token.Written source)
    (word : token.kind.Reserved) :
    (∃ word : Keyword, source.slice token.start token.stop = word.spelling.toList) ∨
      source.slice token.start token.stop = "yield".toList ∨
      source.slice token.start token.stop = "await".toList := by
  rw [written.slice]
  generalize token.kind = kind at word ⊢
  cases word with
  | keyword word => exact .inl ⟨word, rfl⟩
  | yield => exact .inr (.inl rfl)
  | await => exact .inr (.inr rfl)

/-- An error that points at something in a source keeps to the contract. -/
theorem At.reports {source : Text} {error : SyntaxError} (points : error.At source) :
    error.Reports source := by
  have placed : error.start ≤ error.stop ∧ source.IsBoundary error.start ∧
      source.IsBoundary error.stop := by
    cases points with
    | lexical fault => exact ⟨Nat.le_refl _, fault.boundary, fault.boundary⟩
    | unexpected written | reserved written _ => exact ⟨written.forward, written.boundaries⟩
    | invalid forward first last => exact ⟨forward, first, last⟩
  obtain ⟨forward, first, last⟩ := placed
  refine ⟨error.message_begins, error.message_names, forward, last.le, first, last, ?_, ?_⟩
  · intro same
    cases points with
    | lexical fault => exact ⟨rfl, _, rfl, fault⟩
    | _ => cases same
  · intro same
    cases points with
    | reserved written word => exact slice_reserved written word
    | _ => cases same

end SyntaxError

end Ecmascript

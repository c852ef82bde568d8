import Ecmascript.Proofs.Cover.Regex
import Ecmascript.Proofs.Estree.Legacy

/-!
# Regular expressions in documents

A document shows a regular expression as a literal with an object of its pattern and its flags. Both
are what the source has on the two sides of the slash where the lexer closed the expression.
-/

set_option autoImplicit false

namespace Ecmascript

/-- A property of the fields of objects holds of every object in a value. -/
inductive Json.Throughout (holds : List (String × Json) → Prop) : Json → Prop
  | null : Throughout holds .null
  | boolean (value : Bool) : Throughout holds (.boolean value)
  | number (raw : String) : Throughout holds (.number raw)
  | string (body : String) : Throughout holds (.string body)
  | array {items : List Json} (each : ∀ item ∈ items, Throughout holds item) :
      Throughout holds (.array items)
  | object {fields : List (String × Json)} (here : holds fields)
      (each : ∀ field ∈ fields, Throughout holds field.2) : Throughout holds (.object fields)

namespace Estree

/-- An object with a regular expression is a literal that begins where the source has the
expression, with its text, its pattern and its flags. -/
def ShowsRegex (source : Text) (fields : List (String × Json)) : Prop :=
  ∀ regex, fields.lookup "regex" = some regex → ∃ start raw pattern flags,
    nodeType? fields = some "Literal" ∧ fields.lookup "start" = some (.nat start) ∧
      fields.lookup "raw" = some (.text raw) ∧
      regex = .object [("pattern", .text pattern), ("flags", .text flags)] ∧
      source.SplitsRegex start raw pattern flags

/-- The regular expressions of a document are shown as the source has them. -/
abbrev RegexesShown (source : Text) (document : Json) : Prop :=
  document.Throughout (ShowsRegex source)

variable {source : Text} {legacy : Bool} {type : String} {start stop : Nat}
  {fields : List (String × Json)}

@[simp] theorem regexesShown_null : RegexesShown source .null :=
  .null

@[simp] theorem regexesShown_boolean {value : Bool} : RegexesShown source (.boolean value) :=
  .boolean value

@[simp] theorem regexesShown_nat {value : Nat} : RegexesShown source (.nat value) :=
  .number _

end Estree

end Ecmascript

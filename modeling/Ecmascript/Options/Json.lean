import Ecmascript.Json.Printer
import Ecmascript.Json.Reader
import Ecmascript.Options.Basic

/-!
# Options as JSON

Options are read from JSON and written to it. A record of options is an object, or an array of the
values in order. What is missing keeps its standard value, names that are not known are passed
over, and everything else must fit: a name that is repeated, a value of another kind, or an array
that is too long is refused.
-/

set_option autoImplicit false

namespace Ecmascript

namespace Options

/-- The values that an object gives to some names. Every name of the object must be readable, and
none of the given names may be repeated. -/
def objectValues (names : List String) (fields : List (String × Json)) :
    Option (List (Option Json)) := do
  let known ← fields.mapM fun field => (Json.decode? field.1).map fun name => (name, field.2)
  names.mapM fun name =>
    match known.filter fun field => field.1 == name with
    | [] => some none
    | [field] => some (some field.2)
    | _ => none

/-- The values that an array gives to some names, in order. -/
def arrayValues (names : List String) (items : List Json) : Option (List (Option Json)) :=
  if items.length ≤ names.length then
    some (items.map some ++ List.replicate (names.length - items.length) none)
  else none

/-- The values that a record of options gives to some names. -/
def values (names : List String) : Json → Option (List (Option Json))
  | .object fields => objectValues names fields
  | .array items => arrayValues names items
  | _ => none

/-- Reads a value if there is one, and takes the standard one otherwise. -/
def valueOr {α : Type} (standard : α) (read : Json → Option α) : Option Json → Option α
  | none => some standard
  | some value => read value

/-- Reads two options of a record. -/
def readPair {α β : Type} (first : String × α × (Json → Option α))
    (second : String × β × (Json → Option β)) (record : Json) : Option (α × β) := do
  match ← values [first.1, second.1] record with
  | [left, right] =>
      let left ← valueOr first.2.1 first.2.2 left
      let right ← valueOr second.2.1 second.2.2 right
      return (left, right)
  | _ => none

end Options

open Options

/-- The name of a style. -/
def Style.name : Style → String
  | pretty => "pretty"
  | minified => "minified"

/-- The style with a name. -/
def Style.ofName? (name : String) : Option Style :=
  if name = "pretty" then some .pretty
  else if name = "minified" then some .minified
  else none

/-- Reads a style: its name, or an object whose only field has that name and is null. -/
def Style.ofJson? : Json → Option Style
  | .string body => (Json.decode? body).bind Style.ofName?
  | .object [(name, .null)] => (Json.decode? name).bind Style.ofName?
  | _ => none

/-- Reads which constructs are lowered. -/
def Settings.ofJson? (json : Json) : Option Settings :=
  (readPair ("transform_exponentiation", Settings.standard.lowerPower, Json.boolean?)
    ("transform_arrow", Settings.standard.lowerArrow, Json.boolean?) json).map
    fun (lowerPower, lowerArrow) => { lowerPower, lowerArrow }

/-- The record of which constructs are lowered. -/
def Settings.toJson (settings : Settings) : Json :=
  .object [("transform_exponentiation", .boolean settings.lowerPower),
    ("transform_arrow", .boolean settings.lowerArrow)]

/-- Reads the options of lowering and printing. -/
def TransformOptions.ofJson? (json : Json) : Option TransformOptions :=
  (readPair ("style", TransformOptions.standard.style, Style.ofJson?)
    ("settings", TransformOptions.standard.settings, Settings.ofJson?) json).map
    fun (style, settings) => { style, settings }

/-- The record of the options of lowering and printing. -/
def TransformOptions.toJson (options : TransformOptions) : Json :=
  .object [("style", .text options.style.name), ("settings", options.settings.toJson)]

/-- Reads the options of exporting. -/
def ExportOptions.ofJson? (json : Json) : Option ExportOptions :=
  (readPair ("legacy_container_spans", ExportOptions.standard.legacyContainerSpans,
    Json.boolean?) ("pretty", ExportOptions.standard.pretty, Json.boolean?) json).map
    fun (legacyContainerSpans, pretty) => { legacyContainerSpans, pretty }

/-- The record of the options of exporting. -/
def ExportOptions.toJson (options : ExportOptions) : Json :=
  .object [("legacy_container_spans", .boolean options.legacyContainerSpans),
    ("pretty", .boolean options.pretty)]

end Ecmascript

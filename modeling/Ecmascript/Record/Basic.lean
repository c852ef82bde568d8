import Ecmascript.Unicode.Character
import Ecmascript.Source

/-!
# Records

A record is a structured value to be shown: a word, a quoted text, a name applied to one value, a
name with labelled fields, or a list. It is the common form in which trees are described and
compared.
-/

set_option autoImplicit false

namespace Ecmascript

/-- Records come in three sorts: values, and the chains of items and fields inside them. -/
inductive Record.Sort where
  | value | items | fields
  deriving DecidableEq

/-- A record of a sort. -/
inductive Record : Record.Sort → Type where
  | word (name : String) : Record .value
  | quoted (text : String) : Record .value
  | tagged (name : String) (argument : Record .value) : Record .value
  | struct (name : String) (fields : Record .fields) : Record .value
  | list (items : Record .items) : Record .value
  | noItems : Record .items
  | item (head : Record .value) (rest : Record .items) : Record .items
  | noFields : Record .fields
  | field (label : String) (value : Record .value) (rest : Record .fields) : Record .fields
  deriving DecidableEq

namespace Record

/-- The word for a truth value. -/
def boolean (value : Bool) : Record .value :=
  .word (if value then "true" else "false")

/-- The word for a number. -/
def nat (value : Nat) : Record .value :=
  .word (toString value)

/-- The chain of labelled fields. -/
def ofFields : List (String × Record .value) → Record .fields
  | [] => .noFields
  | (label, value) :: rest => .field label value (ofFields rest)

/-- A record of any sort as a value: items become a list. -/
def whole : {sort : Record.Sort} → Record sort → Record .value
  | .value, record => record
  | .items, items => .list items
  | .fields, fields => .struct "" fields

end Record

end Ecmascript

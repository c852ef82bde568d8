import Ecmascript.Estree.Tree
import Ecmascript.Proofs.Json.Escape

/-!
# Documents

A node of a document is an object with a type. Offsets are the two fields of a node that are not
among its own fields. A change to the fields of nodes is carried through a whole document from the
leaves up, so what it does to a document follows from what it does to the fields of one node.
-/

set_option autoImplicit false

namespace Ecmascript

/-! ## Changes throughout a value -/

namespace Json

/-- A change to the fields of an object. -/
abbrev Change := List (String × Json) → List (String × Json)

mutual

/-- The value with the fields of every object in it changed, inner objects first. -/
def mapObjects (change : Change) : Json → Json
  | .array items => .array (mapItems change items)
  | .object fields => .object (change (mapFields change fields))
  | value => value

/-- The items with the fields of every object in them changed. -/
def mapItems (change : Change) : List Json → List Json
  | [] => []
  | item :: rest => mapObjects change item :: mapItems change rest

/-- The fields with the fields of every object in their values changed. -/
def mapFields (change : Change) : List (String × Json) → List (String × Json)
  | [] => []
  | (name, value) :: rest => (name, mapObjects change value) :: mapFields change rest

end

variable {change : Change}

@[simp] theorem mapObjects_null : null.mapObjects change = null :=
  rfl

@[simp] theorem mapObjects_boolean {value : Bool} :
    (boolean value).mapObjects change = boolean value :=
  rfl

@[simp] theorem mapObjects_text {value : String} : (text value).mapObjects change = text value :=
  rfl

@[simp] theorem mapObjects_nat {value : Nat} : (nat value).mapObjects change = nat value :=
  rfl

@[simp] theorem mapObjects_array {items : List Json} :
    (array items).mapObjects change = array (mapItems change items) :=
  rfl

theorem mapObjects_object {fields : List (String × Json)} :
    (object fields).mapObjects change = object (change (mapFields change fields)) :=
  rfl

@[simp] theorem mapFields_nil : mapFields change [] = [] :=
  rfl

@[simp] theorem mapFields_cons {name : String} {value : Json} {rest : List (String × Json)} :
    mapFields change ((name, value) :: rest) =
      (name, value.mapObjects change) :: mapFields change rest :=
  rfl

theorem mapFields_append {fields fields' : List (String × Json)} :
    mapFields change (fields ++ fields') = mapFields change fields ++ mapFields change fields' := by
  induction fields with
  | nil => rfl
  | cons field rest ih => rw [List.cons_append, mapFields, mapFields, ih, List.cons_append]

theorem map_fst_mapFields {fields : List (String × Json)} :
    (mapFields change fields).map Prod.fst = fields.map Prod.fst := by
  induction fields with
  | nil => rfl
  | cons field rest ih => rw [mapFields, List.map_cons, List.map_cons, ih]

end Json

/-! ## Nodes -/

namespace Estree

/-- The type of an object with these fields, if it is a node. -/
def nodeType? (fields : List (String × Json)) : Option String :=
  (fields.lookup "type").bind Json.text?

/-- Whether a field holds an offset. -/
def isOffset (name : String) : Bool :=
  name = "start" || name = "end"

@[simp] theorem node_inj {legacy : Bool} {type : String} {start stop : Nat}
    {fields fields' : List (String × Json)} :
    node legacy type start stop fields = node legacy type start stop fields' ↔
      fields = fields' := by
  simp [node]

@[simp] theorem isOffset_start : isOffset "start" = true :=
  rfl

@[simp] theorem isOffset_end : isOffset "end" = true :=
  rfl

@[simp] theorem isOffset_type : isOffset "type" = false :=
  rfl

/-- Fields that a node may have besides its type and its offsets. -/
def areOwn (fields : List (String × Json)) : Bool :=
  fields.all fun field => !isOffset field.1

@[simp] theorem nodeType?_cons {type : String} {fields : List (String × Json)} :
    nodeType? (("type", .text type) :: fields) = some type := by
  simp [nodeType?]

theorem areOwn_mapFields (change : Json.Change) {fields : List (String × Json)} :
    areOwn (Json.mapFields change fields) = areOwn fields := by
  have names (fields : List (String × Json)) :
      areOwn fields = (fields.map Prod.fst).all fun name => !isOffset name := by
    rw [areOwn, List.all_map]
    rfl
  rw [names, names, Json.map_fst_mapFields]

end Estree

/-! ## Exports -/

@[simp] theorem Exported.whole_list {items : List Json} : @whole true items = .array items :=
  rfl

@[simp] theorem Exported.whole_value {value : Json} : @whole false value = value :=
  rfl

/-- Located phrases bring their own offsets along. -/
theorem Node.toEstree_located_items {legacy : Bool} {category : Category} :
    ∀ (items : Many (.located category)) (start stop start' stop' : Nat),
      items.toEstree legacy start stop = items.toEstree legacy start' stop'
  | .nil, _, _, _, _ => rfl
  | .cons (.located _ _ _) tail, start, stop, start', stop' =>
      congrArg (List.cons _) (toEstree_located_items tail start stop start' stop')

end Ecmascript

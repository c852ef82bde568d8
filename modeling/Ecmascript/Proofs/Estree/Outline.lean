import Ecmascript.Proofs.Estree.Legacy

/-!
# Documents without offsets

Without the offsets of its nodes, the document of a phrase depends on neither the mode of the
export nor on where the phrase stands.
-/

set_option autoImplicit false

namespace Ecmascript

namespace Estree

open Json

variable {legacy : Bool} {type : String} {start stop : Nat} {fields : List (String × Json)}

/-- The fields of an object without the offsets if it is a node. -/
def dropOffsets (fields : List (String × Json)) : List (String × Json) :=
  match nodeType? fields with
  | some _ => fields.filter fun field => !isOffset field.1
  | none => fields

/-- A document without the offsets of its nodes. -/
def withoutOffsets (document : Json) : Json :=
  document.mapObjects dropOffsets

theorem drop_node (own : areOwn fields = true) :
    (node legacy type start stop fields).mapObjects dropOffsets =
      .object (("type", .text type) :: mapFields dropOffsets fields) := by
  have kept : (mapFields dropOffsets fields).filter (fun field => !isOffset field.1) =
      mapFields dropOffsets fields :=
    List.filter_eq_self.2 (List.all_eq_true.1 ((areOwn_mapFields dropOffsets).trans own))
  rw [node, mapObjects_object]
  simp [dropOffsets, mapFields_append, kept]

theorem drop_templateElements (legacy : Bool) (chunks : List (Nat × Nat × String)) :
    mapItems dropOffsets (templateElements legacy chunks) =
      mapItems dropOffsets (templateElements false chunks) := by
  induction chunks with
  | nil => rfl
  | cons chunk rest ih => simp [templateElements, mapItems, drop_node, areOwn, isOffset, ih]

theorem drop_literal (value : LiteralValue) :
    (literal legacy start stop value).mapObjects dropOffsets =
      (literal false 0 0 value).mapObjects dropOffsets := by
  cases value <;> simp [literal, drop_node, areOwn, isOffset]

/-- Without offsets, the document of a phrase is the same in both modes and at all places. -/
theorem drop_toEstree {category : Category} (phrase : Node category) :
    ∀ legacy start stop, (phrase.toEstree legacy start stop).whole.mapObjects dropOffsets =
      (phrase.toEstree false 0 0).whole.mapObjects dropOffsets := by
  induction phrase with
  | nil => exact fun _ _ _ => rfl
  | cons head tail ihHead ihTail =>
      intro legacy start stop
      have rest := Json.array.inj (ihTail legacy start stop)
      simp [Node.toEstree, mapItems, ihHead, rest]
  | none => exact fun _ _ _ => rfl
  | some value ih => exact ih
  | located begins ends item ih =>
      exact fun legacy _ _ => (ih legacy begins ends).trans (ih false begins ends).symm
  | functionDeclaration definition ih =>
      intro legacy start stop
      have parts := ih legacy start stop
      cases definition with
      | function name isGenerator isAsync parameters body =>
          simpa [Node.toEstree, function, drop_node, areOwn, isOffset] using parts
  | classDeclaration definition ih =>
      intro legacy start stop
      have parts := ih legacy start stop
      cases definition with
      | classDefinition name parent body =>
          cases body
          simpa [Node.toEstree, classOf, drop_node, areOwn, isOffset] using parts
  | template chunks expressions _ ih =>
      intro legacy start stop
      have values := Json.array.inj (ih legacy start stop)
      have elements := drop_templateElements legacy chunks.chunks
      simp [Node.toEstree, drop_node, areOwn, isOffset, elements, values]
  | classDefinition name parent body ihName ihParent ihBody =>
      intro legacy start stop
      cases body with
      | located begins ends members =>
          have name := ihName legacy start stop
          have parent := ihParent legacy start stop
          simp only [Exported.whole_value] at name parent
          have members : mapItems dropOffsets (members.toEstree legacy start stop) =
              mapItems dropOffsets (members.toEstree false 0 0) := by
            simp only [members.toEstree_located_items start stop begins ends,
              members.toEstree_located_items 0 0 begins ends]
            exact Json.array.inj (ihBody legacy start stop)
          simp [Node.toEstree, classOf, drop_node, areOwn, isOffset, name, parent, members]
  | _ =>
      intro legacy start stop
      simp only [Exported.whole_value, Exported.whole_list, mapObjects_array, Json.array.injEq] at *
      simp [Node.toEstree, function, variableDeclaration, block, identifier, property, drop_node,
        drop_literal, areOwn, isOffset, *]

end Estree

/-- The document of a phrase without offsets. -/
def Node.outline {category : Category} (phrase : Node category) : Json :=
  (phrase.toEstree false 0 0).whole.mapObjects Estree.dropOffsets

end Ecmascript

import Ecmascript.Proofs.Estree.Document

/-!
# Legacy offsets

In legacy mode the offsets of containers are zero, and nothing else is different: the legacy
document is the ordinary one with the offsets of the containers set to zero.
-/

set_option autoImplicit false

namespace Ecmascript.Estree

open Json

variable {type : String} {start stop : Nat} {fields : List (String × Json)}

/-- The fields of an object with the offsets set to zero if it is a legacy container. -/
def hideOffsets (fields : List (String × Json)) : List (String × Json) :=
  match nodeType? fields with
  | some type =>
      if legacyContainers.contains type then
        fields.map fun field => if isOffset field.1 then (field.1, .nat 0) else field
      else fields
  | none => fields

theorem map_own (own : areOwn fields = true) :
    (fields.map fun field => if isOffset field.1 then (field.1, .nat 0) else field) = fields := by
  refine (List.map_congr_left fun field member => ?_).trans (List.map_id fields)
  have plain := List.all_eq_true.1 own field member
  rw [Bool.not_eq_true'] at plain
  simp [plain]

/-- The node in legacy mode is the node with its offsets hidden. -/
theorem hide_node (own : areOwn fields = true) :
    (node false type start stop fields).mapObjects hideOffsets =
      node true type start stop (mapFields hideOffsets fields) := by
  have kept := map_own ((areOwn_mapFields hideOffsets).trans own)
  rw [node, mapObjects_object, node]
  congr 1
  simp only [Bool.false_and, Bool.false_eq_true, if_false, Bool.true_and]
  simp only [List.cons_append, mapFields_cons, mapFields_append, hideOffsets, mapObjects_text,
    nodeType?_cons]
  split
  · simp [kept]
  · simp

theorem hide_templateElements (chunks : List (Nat × Nat × String)) :
    mapItems hideOffsets (templateElements false chunks) = templateElements true chunks := by
  induction chunks with
  | nil => rfl
  | cons chunk rest ih =>
      simp [templateElements, mapItems, hide_node, areOwn, isOffset, mapObjects_object, hideOffsets,
        nodeType?, List.lookup_cons, ih]

theorem hide_literal (value : LiteralValue) :
    (literal false start stop value).mapObjects hideOffsets = literal true start stop value := by
  cases value <;>
    simp [literal, hide_node, areOwn, isOffset, mapObjects_object, hideOffsets, nodeType?,
      List.lookup_cons]

/-- Hiding the offsets of an ordinary document leaves the legacy one. -/
theorem hide_toEstree {category : Category} (phrase : Node category) :
    ∀ start stop, (phrase.toEstree false start stop).whole.mapObjects hideOffsets =
      (phrase.toEstree true start stop).whole := by
  induction phrase with
  | nil => exact fun _ _ => rfl
  | cons head tail ihHead ihTail =>
      intro start stop
      have rest := Json.array.inj (ihTail start stop)
      simp [Node.toEstree, mapItems, ihHead, rest]
  | none => exact fun _ _ => rfl
  | some value ih => exact ih
  | located begins ends item ih => exact fun _ _ => ih begins ends
  | functionDeclaration definition ih =>
      intro start stop
      have parts := ih start stop
      cases definition with
      | function name isGenerator isAsync parameters body =>
          simpa [Node.toEstree, function, hide_node, areOwn, isOffset] using parts
  | classDeclaration definition ih =>
      intro start stop
      have parts := ih start stop
      cases definition with
      | classDefinition name parent body =>
          cases body
          simpa [Node.toEstree, classOf, hide_node, areOwn, isOffset] using parts
  | template chunks expressions _ ih =>
      intro start stop
      simp only [Exported.whole_value, Exported.whole_list] at *
      simp [Node.toEstree, hide_node, areOwn, isOffset, hide_templateElements, ih]
  | classDefinition name parent body ihName ihParent ihBody =>
      intro start stop
      cases body with
      | located begins ends members =>
          have members : mapItems hideOffsets (members.toEstree false start stop) =
              members.toEstree true start stop := by
            simp only [members.toEstree_located_items start stop begins ends]
            exact Json.array.inj (ihBody start stop)
          have name := ihName start stop
          have parent := ihParent start stop
          simp only [Exported.whole_value] at name parent
          simp [Node.toEstree, classOf, hide_node, areOwn, isOffset, name, parent, members]
  | _ =>
      intro start stop
      simp only [Exported.whole_value, Exported.whole_list] at *
      simp [Node.toEstree, function, variableDeclaration, block, identifier, property, hide_node,
        hide_literal, areOwn, isOffset, *]

/-- A document with the offsets of the legacy containers set to zero. -/
def hideContainers (document : Json) : Json :=
  document.mapObjects hideOffsets

theorem hideContainers_program (program : Program) :
    hideContainers (program.toEstree false) = program.toEstree true := by
  have body := hide_toEstree program.body program.start program.stop
  simp only [Exported.whole_list] at body
  simp [hideContainers, Program.toEstree, hide_node, areOwn, isOffset, body]

end Ecmascript.Estree

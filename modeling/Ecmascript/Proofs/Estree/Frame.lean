import Ecmascript.Proofs.Cover.Position
import Ecmascript.Proofs.Estree.Legacy
import Ecmascript.Proofs.Tree.Order

/-!
# Offsets in documents

The nodes of the document of an accepted script lie inside each other, and those that stand for
text are not empty. Scalars, arrays and objects without a type have no offsets: a node inside them
has to lie inside the nearest node around them.
-/

set_option autoImplicit false

namespace Ecmascript

/-- Whether the phrases of a category take their offsets from the located phrase around them. -/
def Category.isBare : Category → Bool
  | .located _ => false
  | .list item | .option item => item.isBare
  | _ => true

namespace Estree

/-- A node that may be empty: a chunk of template text, or the script itself when its source is
empty. -/
def MayBeEmpty (source : Text) (type : String) : Prop :=
  type = "TemplateElement" ∨ type = "Program" ∧ source = []

/-- The nodes of a document lie inside each other and between two offsets, and are not empty. -/
inductive Framed (source : Text) : Span → Json → Prop
  | null {around : Span} : Framed source around .null
  | boolean {around : Span} (value : Bool) : Framed source around (.boolean value)
  | number {around : Span} (raw : String) : Framed source around (.number raw)
  | string {around : Span} (body : String) : Framed source around (.string body)
  | array {around : Span} {items : List Json}
      (each : ∀ item ∈ items, Framed source around item) : Framed source around (.array items)
  | plain {around : Span} {fields : List (String × Json)} (untyped : nodeType? fields = none)
      (each : ∀ field ∈ fields, Framed source around field.2) :
      Framed source around (.object fields)
  | node {around : Span} {fields : List (String × Json)} {type : String} {start stop : Nat}
      (typed : nodeType? fields = some type) (begins : fields.lookup "start" = some (.nat start))
      (ends : fields.lookup "end" = some (.nat stop))
      (inside : around.start ≤ start ∧ start ≤ stop ∧ stop ≤ around.stop)
      (filled : start < stop ∨ MayBeEmpty source type)
      (each : ∀ field ∈ fields, Framed source ⟨start, stop⟩ field.2) :
      Framed source around (.object fields)

variable {source : Text} {around around' : Span} {value : Json} {type : String} {start stop : Nat}
  {fields : List (String × Json)}

theorem inside_positions {extent : Extent} {category part : Category} {node : Node category} :
    (positions source).inside extent node part = extent.inside node part :=
  rfl

@[simp] theorem framed_null : Framed source around .null :=
  .null

@[simp] theorem framed_boolean {value : Bool} : Framed source around (.boolean value) :=
  .boolean value

@[simp] theorem framed_text {text : String} : Framed source around (.text text) :=
  .string _

theorem framed_array {items : List Json} :
    Framed source around (.array items) ↔ ∀ item ∈ items, Framed source around item := by
  refine ⟨fun framed => ?_, .array⟩
  cases framed with
  | array each => exact each

/-- What lies between two offsets lies between two that are further apart. -/
theorem Framed.mono (framed : Framed source around value) (begins : around'.start ≤ around.start)
    (ends : around.stop ≤ around'.stop) : Framed source around' value := by
  induction framed with
  | null => exact .null
  | boolean value => exact .boolean value
  | number raw => exact .number raw
  | string body => exact .string body
  | array each ih => exact .array fun item member => ih item member begins ends
  | plain untyped each ih => exact .plain untyped fun field member => ih field member begins ends
  | node typed starts stops inside filled each _ =>
      exact .node typed starts stops ⟨Nat.le_trans begins inside.1, inside.2.1,
        Nat.le_trans inside.2.2 ends⟩ filled each

theorem lookup_own (own : areOwn fields = true) (name : String) (offset : isOffset name = true)
    (rest : List (String × Json)) : (fields ++ rest).lookup name = rest.lookup name := by
  induction fields with
  | nil => rfl
  | cons field others ih =>
      obtain ⟨plain, own⟩ : isOffset field.1 = false ∧ areOwn others = true := by
        simpa [areOwn] using own
      have different : (name == field.1) = false := by
        rw [beq_eq_false_iff_ne]
        rintro rfl
        rw [plain] at offset
        cases offset
      rw [List.cons_append, List.lookup_cons, different]
      exact ih own

/-- A node is framed when it lies inside, is filled and its own fields lie inside of it. -/
theorem framed_node_iff (own : areOwn fields = true) :
    Framed source around (node false type start stop fields) ↔
      (around.start ≤ start ∧ start ≤ stop ∧ stop ≤ around.stop) ∧
        (start < stop ∨ MayBeEmpty source type) ∧
          ∀ field ∈ fields, Framed source ⟨start, stop⟩ field.2 := by
  let all := ("type", .text type) :: fields ++ [("start", .nat start), ("end", .nat stop)]
  have document : node false type start stop fields = .object all := rfl
  have typed : nodeType? all = some type := nodeType?_cons
  have begins : all.lookup "start" = some (.nat start) := lookup_own own "start" rfl _
  have ends : all.lookup "end" = some (.nat stop) := lookup_own own "end" rfl _
  rw [document]
  constructor
  · intro framed
    cases framed with
    | plain untyped => cases untyped.symm.trans typed
    | node typed' begins' ends' inside filled each =>
        obtain rfl := Option.some.inj (typed'.symm.trans typed)
        obtain rfl := Json.nat_inj.1 (Option.some.inj (begins'.symm.trans begins))
        obtain rfl := Json.nat_inj.1 (Option.some.inj (ends'.symm.trans ends))
        exact ⟨inside, filled, fun field member => each field (by simp [all, member])⟩
  · rintro ⟨inside, filled, each⟩
    refine .node typed begins ends inside filled ?_
    simp only [all, List.cons_append, List.forall_mem_cons, List.forall_mem_append]
    exact ⟨framed_text, each, .number _, .number _, List.forall_mem_nil _⟩

/-! ## Exports -/

theorem framed_literal (filled : start < stop) (value : LiteralValue) :
    Framed source ⟨start, stop⟩ (literal false start stop value) := by
  have wide := Nat.le_of_lt filled
  have regex (pattern flags : String) : Framed source ⟨start, stop⟩
      (.object [("pattern", .text pattern), ("flags", .text flags)]) :=
    .plain rfl (by simp)
  cases value <;> simp [literal, framed_node_iff, areOwn, isOffset, filled, wide, regex]

/-- The chunks of a template stay inside of it. -/
theorem chunks_inside {category : Category} {phrase : Node category} {extent : Extent}
    (obeys : phrase.Obeys (positions source) extent) :
    ∀ chunk ∈ phrase.chunks,
      extent.start ≤ chunk.1 ∧ chunk.1 ≤ chunk.2.1 ∧ chunk.2.1 ≤ extent.stop := by
  induction phrase with
  | cons head tail ihHead ihTail =>
      have parts := (Node.obeys_iff.1 obeys).2
      simp only [Node.parts, List.forall_mem_cons] at parts
      simp only [Node.chunks, List.forall_mem_append]
      exact ⟨ihHead parts.1, ihTail parts.2.1⟩
  | located begins ends item _ =>
      obtain ⟨⟨least, filled, greatest, _⟩, _⟩ := Node.obeys_positions_located.1 obeys
      cases item with
      | word raw => exact List.forall_mem_singleton.2 ⟨least, filled, greatest⟩
      | _ => exact List.forall_mem_nil _
  | _ => exact List.forall_mem_nil _

theorem framed_templateElements {chunks : List (Nat × Nat × String)}
    (inside : ∀ chunk ∈ chunks, around.start ≤ chunk.1 ∧ chunk.1 ≤ chunk.2.1 ∧
      chunk.2.1 ≤ around.stop) :
    ∀ element ∈ templateElements false chunks, Framed source around element := by
  induction chunks with
  | nil => exact List.forall_mem_nil _
  | cons chunk rest ih =>
      obtain ⟨first, inside⟩ := List.forall_mem_cons.1 inside
      refine List.forall_mem_cons.2 ⟨?_, ih inside⟩
      refine (framed_node_iff rfl).2 ⟨first, .inr (.inl rfl), ?_⟩
      have texts : Framed source ⟨chunk.1, chunk.2.1⟩
          (.object [("raw", .text chunk.2.2), ("cooked", .text chunk.2.2)]) :=
        .plain rfl (by simp)
      exact List.forall_mem_cons.2 ⟨texts, List.forall_mem_singleton.2 (.boolean _)⟩

/-- A phrase between two offsets is exported to nodes between them. -/
theorem framed_toEstree {category : Category} (phrase : Node category) :
    ∀ start stop, (category.isBare = true → start < stop) →
      phrase.Obeys (positions source) ⟨start, stop, false⟩ →
      Framed source ⟨start, stop⟩ (phrase.toEstree false start stop).whole := by
  induction phrase with
  | nil => exact fun _ _ _ _ => .array (List.forall_mem_nil _)
  | cons head tail ihHead ihTail =>
      intro start stop filled obeys
      have parts := (Node.obeys_iff.1 obeys).2
      simp only [Node.parts, List.forall_mem_cons] at parts
      have first := ihHead start stop filled parts.1
      have rest := ihTail start stop filled parts.2.1
      exact framed_array.2 (List.forall_mem_cons.2 ⟨first, framed_array.1 rest⟩)
  | none => exact fun _ _ _ _ => .null
  | some value ih =>
      intro start stop filled obeys
      exact ih start stop filled ((Node.obeys_iff.1 obeys).2 ⟨_, value⟩ (List.mem_singleton.2 rfl))
  | located begins ends item ih =>
      intro start stop _ obeys
      obtain ⟨⟨least, _, greatest, _, _, filled⟩, inside⟩ := Node.obeys_positions_located.1 obeys
      have filled : begins < ends := filled.resolve_right Bool.false_ne_true
      exact (ih begins ends (fun _ => filled) inside).mono least greatest
  | functionDeclaration definition ih =>
      intro start stop filled obeys
      have parts := ih start stop filled
        ((Node.obeys_iff.1 obeys).2 ⟨_, definition⟩ (List.mem_singleton.2 rfl))
      cases definition with
      | function name isGenerator isAsync parameters body =>
          simpa [Node.toEstree, function, framed_node_iff, areOwn, isOffset, filled rfl] using parts
  | classDeclaration definition ih =>
      intro start stop filled obeys
      have parts := ih start stop filled
        ((Node.obeys_iff.1 obeys).2 ⟨_, definition⟩ (List.mem_singleton.2 rfl))
      cases definition with
      | classDefinition name parent body =>
          cases body
          simpa [Node.toEstree, classOf, framed_node_iff, areOwn, isOffset, filled rfl] using parts
  | template chunks expressions _ ih =>
      intro start stop filled obeys
      have filled := filled rfl
      have wide := Nat.le_of_lt filled
      obtain ⟨elements, values⟩ := Node.obeys_positions_template.1 obeys
      have elements : ∀ element ∈ templateElements false chunks.chunks,
          Framed source ⟨start, stop⟩ element :=
        framed_templateElements (chunks_inside elements)
      have values := framed_array.1 (ih start stop (absurd · Bool.false_ne_true) values)
      simp [Node.toEstree, framed_node_iff, areOwn, isOffset, filled, wide, framed_array]
      exact ⟨values, elements⟩
  | classDefinition name parent body ihName ihParent ihBody =>
      intro start stop filled obeys
      have filled := filled rfl
      have parts := (Node.obeys_iff.1 obeys).2
      simp only [Node.parts, List.forall_mem_cons] at parts
      have name := ihName start stop (absurd · Bool.false_ne_true) parts.1
      have parent := ihParent start stop (absurd · Bool.false_ne_true) parts.2.1
      cases body with
      | located begins ends members =>
          have placed : (Node.located begins ends members).Obeys (positions source)
              ⟨start, stop, false⟩ :=
            parts.2.2.1
          obtain ⟨⟨least, wide, greatest, bounds⟩, inside⟩ :=
            Node.obeys_positions_located.1 placed
          have nonempty : begins < ends := bounds.2.2.resolve_right Bool.false_ne_true
          -- The members stay inside the body, not only inside the class.
          have body := ihBody begins ends (absurd · Bool.false_ne_true)
            (Node.obeys_positions_located.2 ⟨⟨Nat.le_refl _, wide, Nat.le_refl _, bounds⟩, inside⟩)
          have members : Framed source ⟨begins, ends⟩
              (.array (members.toEstree false start stop)) := by
            rw [members.toEstree_located_items start stop begins ends]
            exact body
          simp only [Exported.whole_value] at name parent ⊢
          simp [Node.toEstree, classOf, framed_node_iff, areOwn, isOffset, filled,
            Nat.le_of_lt filled, least, wide, greatest, nonempty, name, parent, members]
  | _ =>
      intro start stop filled obeys
      have filled := filled rfl
      have wide := Nat.le_of_lt filled
      have parts := (Node.obeys_iff.1 obeys).2
      simp only [Exported.whole_value, Exported.whole_list] at *
      simp [Node.parts, inside_positions, Extent.inside] at parts
      simp [Node.toEstree, function, variableDeclaration, block, identifier, property,
        framed_node_iff, framed_literal, areOwn, isOffset, *]

end Estree

/-- Legacy mode hides the offsets of the containers and changes nothing else. The nodes of the
ordinary document of an accepted script lie inside each other and inside the source, and none but
the chunks of templates and the script itself may be empty. -/
theorem toEstree_offsets :
    (∀ program : Program,
      Estree.hideContainers (program.toEstree false) = program.toEstree true) ∧
    ∀ (source : String) (program : Program), parse source = .ok program →
      Estree.Framed source.toList ⟨0, Text.byteLength source.toList⟩ (program.toEstree false) := by
  refine ⟨Estree.hideContainers_program, fun source program accepted => ?_⟩
  obtain ⟨start, stop, ts, between, inside⟩ := covers_of_parseWith accepted
  have placed : program.body.Obeys (positions source.toList)
      { start := 0, stop := Text.byteLength source.toList, isChunk := false } :=
    inside.positions between nofun
  have body := Estree.framed_toEstree program.body _ _ nofun placed
  have filled : 0 < Text.byteLength source.toList ∨
      Estree.MayBeEmpty source.toList "Program" := by
    by_cases empty : source.toList = []
    · exact .inr (.inr ⟨rfl, empty⟩)
    · exact .inl (Text.byteLength_pos empty)
  rw [Program.toEstree, start, stop]
  refine (Estree.framed_node_iff rfl).2 ⟨⟨Nat.le_refl _, Nat.zero_le _, Nat.le_refl _⟩, filled, ?_⟩
  exact List.forall_mem_cons.2 ⟨body, List.forall_mem_singleton.2 Estree.framed_text⟩

/-- A class with a method and a template without text, in a script of its own. -/
theorem toEstree_offsets_class_with_template :
    let source := "class A\x7bb()\x7breturn``\x7d\x7d"
    ∃ script, parse source = .ok script ∧
      Estree.Framed source.toList ⟨0, 22⟩ (script.toEstree false) := by
  intro source
  have accepted : (parse source).toOption.isSome = true := by decide +kernel
  cases reading : parse source with
  | error _ =>
      rw [reading] at accepted
      cases accepted
  | ok script =>
      have length : Text.byteLength source.toList = 22 := by decide
      exact ⟨script, rfl, length ▸ toEstree_offsets.2 source script reading⟩

end Ecmascript

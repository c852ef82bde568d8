import Ecmascript.Proofs.Estree.Form
import Ecmascript.Proofs.Lowering.NormalForm

/-!
# Documents determine shapes

Two phrases with the same outline are the same up to positions.
-/

set_option autoImplicit false

namespace Ecmascript

variable {category : Category} {node node' : Node category}

namespace Estree

open Json

/-! ## Lists, options and positions -/

theorem outline_cons_inj {head head' : Node category} {tail tail' : Many category} :
    (Node.cons head tail).outline = (Node.cons head' tail').outline ↔
      head.outline = head'.outline ∧ tail.outline = tail'.outline := by
  simp [Node.outline, Node.toEstree, mapItems]

theorem outline_nil_ne_cons {head : Node category} {tail : Many category} :
    (Node.nil : Many category).outline ≠ (Node.cons head tail).outline := by
  simp [Node.outline, Node.toEstree, mapItems]

theorem outline_located {start stop : Nat} (item : Node category) :
    (Node.located start stop item).outline = item.outline :=
  drop_toEstree item false start stop

/-- A node is not absent. -/
theorem outline_ne_null (isNode : category.isNode = true) (node : Node category) :
    node.outline ≠ .null := by
  induction node with
  | nil | cons | none | some => cases isNode
  | located start stop item ih => exact outline_located item ▸ ih isNode
  | expressionHead _ ih | patternHead _ ih | computedKey _ ih | templateExpression _ ih
  | functionExpression _ ih | classExpression _ ih | expressionBody _ ih | blockBody _ ih
  | expressionPattern _ ih => exact ih rfl
  | functionDeclaration definition =>
      cases definition
      simp [Node.outline, Node.toEstree, function, drop_node, areOwn, isOffset]
  | classDeclaration definition =>
      cases definition with
      | classDefinition _ _ body =>
          cases body
          simp [Node.outline, Node.toEstree, classOf, drop_node, areOwn, isOffset]
  | classDefinition _ _ body =>
      cases body
      simp [Node.outline, Node.toEstree, classOf, drop_node, areOwn, isOffset]
  | literal value | literalKey value =>
      cases value <;> simp [Node.outline, Node.toEstree, literal, drop_node, areOwn, isOffset]
  | _ =>
      simp [Node.outline, Node.toEstree, function, variableDeclaration, block, identifier, property,
        drop_node, areOwn, isOffset]

/-! ## Phrases that are exported along with another

Functions and classes are exported along with the declarations they belong to, and the chunks of a
template along with the template. -/

theorem outline_functionDeclaration {definition definition' : Node .function} :
    (Node.functionDeclaration definition).outline = (Node.functionDeclaration definition').outline ↔
      definition.outline = definition'.outline := by
  cases definition
  cases definition'
  simp [Node.outline, Node.toEstree, function, drop_node, areOwn, isOffset]

theorem outline_classDeclaration {definition definition' : Node .classDefinition} :
    (Node.classDeclaration definition).outline = (Node.classDeclaration definition').outline ↔
      definition.outline = definition'.outline := by
  cases definition with
  | classDefinition _ _ body =>
      cases definition' with
      | classDefinition _ _ body' =>
          cases body
          cases body'
          simp [Node.outline, Node.toEstree, classOf, drop_node, areOwn, isOffset]

theorem outline_classDefinition {name name' : Optional (.located .word)}
    {parent parent' : Optional (.located .expression)}
    {body body' : Located (.list (.located .member))} :
    (Node.classDefinition name parent body).outline =
        (Node.classDefinition name' parent' body').outline ↔
      name.outline = name'.outline ∧ parent.outline = parent'.outline ∧
        body.outline = body'.outline := by
  cases body
  cases body'
  rw [outline_located, outline_located]
  simp [Node.outline, Node.toEstree, classOf, drop_node, areOwn, isOffset]

/-- The elements of a template show its chunks. -/
theorem raw_of_templateElements : ∀ {chunks chunks' : List (Nat × Nat × String)},
    mapItems dropOffsets (templateElements false chunks) =
      mapItems dropOffsets (templateElements false chunks') →
    chunks.map (·.2.2) = chunks'.map (·.2.2)
  | [], [], _ => rfl
  | [], _ :: _, same => nomatch same
  | _ :: _, [], same => nomatch same
  | (_, _, raw) :: chunks, (_, _, raw') :: chunks', same => by
      obtain ⟨first, rest⟩ := List.cons.inj same
      have raws : raw = raw' := by
        simp [drop_node, areOwn, isOffset, mapObjects_object, dropOffsets, nodeType?,
          List.lookup_cons] at first
        exact first.1
      exact congrArg₂ List.cons raws (raw_of_templateElements rest)

theorem outline_template {chunks chunks' : Many (.located .word)}
    {expressions expressions' : Many (.located .expression)}
    (same : (Node.template chunks expressions).outline =
      (Node.template chunks' expressions').outline) :
    chunks.chunks.map (·.2.2) = chunks'.chunks.map (·.2.2) ∧
      expressions.outline = expressions'.outline := by
  obtain ⟨values, elements⟩ : expressions.outline = expressions'.outline ∧
      mapItems dropOffsets (templateElements false chunks.chunks) =
        mapItems dropOffsets (templateElements false chunks'.chunks) := by
    simpa [Node.outline, Node.toEstree, drop_node, areOwn, isOffset] using same
  exact ⟨raw_of_templateElements elements, values⟩

/-! ## Literals and methods -/

/-- A text other than the empty one is not its own contents. -/
theorem contents_ne {raw : String} (nonempty : raw.toList ≠ []) : contents raw ≠ raw := by
  intro same
  have lengths := congrArg (fun text => text.toList.length) same
  have positive := List.length_pos_iff.2 nonempty
  simp only [contents, String.toList_ofList, List.length_dropLast, List.length_drop] at lengths
  omega

/-- A literal shows its value: a string shows its contents, and no other literal shows those of its
own text. -/
theorem value_of_literal {value value' : LiteralValue} (written : value.text ≠ [])
    (written' : value'.text ≠ [])
    (same : (literal false 0 0 value).mapObjects dropOffsets =
      (literal false 0 0 value').mapObjects dropOffsets) : value = value' := by
  cases value <;> cases value' <;> simp [literal, drop_node, areOwn, isOffset] at same ⊢
  case number.string => exact contents_ne written' (same.1.symm.trans same.2)
  case string.number => exact contents_ne written (same.1.trans same.2.symm)
  all_goals first | exact same | exact same.1 | exact same.2 | cases same.1

@[simp] theorem classMethodKind_inj {kind kind' : MethodKind} :
    classMethodKind kind = classMethodKind kind' ↔ kind = kind' := by
  cases kind <;> cases kind' <;> simp [classMethodKind]

/-- The methods of an object show their kinds, as long as none is a constructor. -/
theorem kind_of_objectMethodKind {kind kind' : MethodKind} (other : kind ≠ .constructor)
    (other' : kind' ≠ .constructor) (same : objectMethodKind kind = objectMethodKind kind') :
    kind = kind' := by
  cases kind <;> cases kind' <;> simp_all [objectMethodKind]

theorem outline_methodProperty {key key' : Located .key} {kind kind' : MethodKind}
    {value value' : Located .function}
    (same : (Node.methodProperty key kind value).outline =
      (Node.methodProperty key' kind' value').outline) :
    objectMethodKind kind = objectMethodKind kind' ∧ key.isComputedKey = key'.isComputedKey ∧
      key.outline = key'.outline ∧ value.outline = value'.outline := by
  simp [Node.outline, Node.toEstree, property, drop_node, areOwn, isOffset] at same ⊢
  obtain ⟨isMethod, computed, keys, values, kinds⟩ := same
  exact ⟨Prod.ext kinds isMethod, computed, keys, values⟩

/-! ## Shapes -/

/-- Two phrases are the same up to positions. -/
def SameShape (node node' : Node category) : Prop :=
  node.erase = node'.erase

theorem erase_eq_iff : node.erase = node'.erase ↔ SameShape node node' :=
  Iff.rfl

theorem erase_plain (plain : category.isPlain = true) : node.erase = node.mapParts Node.erase := by
  cases node with
  | nil | cons | none | some | located => cases plain
  | _ => rfl

theorem sameShape_of_chunks : ∀ chunks chunks' : Many (.located .word),
    chunks.chunks.map (·.2.2) = chunks'.chunks.map (·.2.2) → SameShape chunks chunks'
  | .nil, .nil, _ => rfl
  | .nil, .cons (.located _ _ (.word _)) _, same => nomatch same
  | .cons (.located _ _ (.word _)) _, .nil, same => nomatch same
  | .cons (.located _ _ (.word raw)) chunks, .cons (.located _ _ (.word raw')) chunks', same => by
      obtain ⟨raws, rest⟩ := List.cons.inj same
      have rest : chunks.erase = chunks'.erase := sameShape_of_chunks chunks chunks' rest
      have raws : raw = raw' := raws
      rw [raws]
      exact congrArg (Node.cons _) rest

/-- Phrases with the same outline have the same shape, if they stand in the same way. -/
theorem sameShape_of_outline (node : Node category) : ∀ node' : Node category,
    node.Everywhere Node.IsTold → node'.Everywhere Node.IsTold → Alike category node node' →
    node.outline = node'.outline → SameShape node node' := by
  induction node with
  | nil =>
      intro node' _ _ _ same
      cases node' with
      | nil => rfl
      | cons => exact absurd same outline_nil_ne_cons
  | cons head tail ihHead ihTail =>
      intro node' told told' alike same
      cases node' with
      | nil => exact absurd same.symm outline_nil_ne_cons
      | cons head' tail' =>
          obtain ⟨heads, tails⟩ := outline_cons_inj.1 same
          obtain ⟨_, first, rest⟩ := Node.everywhere_cons.1 told
          obtain ⟨_, first', rest'⟩ := Node.everywhere_cons.1 told'
          have heads : head.erase = head'.erase := ihHead head' first first' (alike _ _) heads
          have tails : tail.erase = tail'.erase := ihTail tail' rest rest' alike tails
          exact congrArg₂ Node.cons heads tails
  | none =>
      intro node' _ _ alike same
      cases node' with
      | none => rfl
      | some value' => exact absurd same.symm (outline_ne_null alike.1 value')
  | some value ih =>
      intro node' told told' alike same
      cases node' with
      | none => exact absurd same (outline_ne_null alike.1 value)
      | some value' =>
          have values : value.erase = value'.erase :=
            ih value' (told.inner rfl) (told'.inner rfl) (alike.2 _ _ rfl rfl) same
          exact congrArg Node.some values
  | located begins ends item ih =>
      intro node' told told' alike same
      cases node' with
      | located begins' ends' item' =>
          rw [outline_located, outline_located] at same
          have items : item.erase = item'.erase :=
            ih item' (told.inner rfl) (told'.inner rfl) alike same
          exact congrArg (Node.located 0 0) items
  | functionDeclaration definition ih =>
      intro node' told told' alike same
      have form := ctorIdx_of_outline (by rfl) told told' alike same
      cases node' with
      | functionDeclaration definition' =>
          have definitions : definition.erase = definition'.erase :=
            ih definition' (told.inner rfl) (told'.inner rfl) trivial
              (outline_functionDeclaration.1 same)
          exact congrArg Node.functionDeclaration definitions
      | _ => cases form
  | classDeclaration definition ih =>
      intro node' told told' alike same
      have form := ctorIdx_of_outline (by rfl) told told' alike same
      cases node' with
      | classDeclaration definition' =>
          have definitions : definition.erase = definition'.erase :=
            ih definition' (told.inner rfl) (told'.inner rfl) trivial
              (outline_classDeclaration.1 same)
          exact congrArg Node.classDeclaration definitions
      | _ => cases form
  | classDefinition name parent body ihName ihParent ihBody =>
      intro node' told told' _ same
      cases node' with
      | classDefinition name' parent' body' =>
          obtain ⟨names, parents, bodies⟩ := outline_classDefinition.1 same
          have parts := (Node.everywhere_iff.1 told).2
          have parts' := (Node.everywhere_iff.1 told').2
          simp only [Node.parts, List.forall_mem_cons] at parts parts'
          have names : name.erase = name'.erase :=
            ihName name' parts.1 parts'.1 (alike_of_free rfl _ _) names
          have parents : parent.erase = parent'.erase :=
            ihParent parent' parts.2.1 parts'.2.1 (alike_of_free rfl _ _) parents
          have bodies : body.erase = body'.erase :=
            ihBody body' parts.2.2.1 parts'.2.2.1 (alike_of_free rfl _ _) bodies
          rw [SameShape, erase_plain rfl, erase_plain rfl]
          simp only [Node.mapParts, names, parents, bodies]
  | template chunks expressions _ ih =>
      intro node' told told' _ same
      cases node' with
      | template chunks' expressions' =>
          obtain ⟨raws, values⟩ := outline_template same
          obtain ⟨_, _, inside⟩ := Node.everywhere_template.1 told
          obtain ⟨_, _, inside'⟩ := Node.everywhere_template.1 told'
          have words : chunks.erase = chunks'.erase := sameShape_of_chunks chunks chunks' raws
          have values : expressions.erase = expressions'.erase :=
            ih expressions' inside inside' (alike_of_free rfl _ _) values
          exact congrArg₂ Node.template words values
  | literal value | literalKey value =>
      intro node' told told' alike same
      have form := ctorIdx_of_outline (by rfl) told told' alike same
      have written := (Node.everywhere_iff.1 told).1.2
      have written' := (Node.everywhere_iff.1 told').1.2
      cases node' <;> first
        | (cases form; done)
        | (rw [value_of_literal written written' same]
           rfl)
  | methodProperty key kind value ihKey ihValue =>
      intro node' told told' alike same
      have form := ctorIdx_of_outline (by rfl) told told' alike same
      cases node' with
      | methodProperty key' kind' value' =>
          obtain ⟨kinds, computed, keys, values⟩ := outline_methodProperty same
          obtain ⟨⟨other, _⟩, parts⟩ := Node.everywhere_iff.1 told
          obtain ⟨⟨other', _⟩, parts'⟩ := Node.everywhere_iff.1 told'
          simp only [Node.parts, List.forall_mem_cons] at parts parts'
          have kinds : kind = kind' := kind_of_objectMethodKind other other' kinds
          have keys : key.erase = key'.erase :=
            ihKey key' parts.1 parts'.1 (alike_key computed) keys
          have values : value.erase = value'.erase :=
            ihValue value' parts.2.1 parts'.2.1 (alike_of_free rfl _ _) values
          rw [SameShape, erase_plain rfl, erase_plain rfl]
          simp only [Node.mapParts, keys, kinds, values]
      | _ => cases form
  | _ =>
      -- In any other form the fields of the outline are the outlines of the parts, and the flags
      -- among them tell how the parts stand.
      intro node' told told' alike same
      have form := ctorIdx_of_outline (by rfl) told told' alike same
      have parts := (Node.everywhere_iff.1 told).2
      have parts' := (Node.everywhere_iff.1 told').2
      have showable := (Node.everywhere_iff.1 told).1.1
      have showable' := (Node.everywhere_iff.1 told').1.1
      cases node' <;> first
        | rfl
        | (cases form; done)
        | (clear told told' alike form
           simp [Node.parts, Node.IsShowable, Node.outline, Node.toEstree, function,
             variableDeclaration, block, identifier, property, drop_node, areOwn, isOffset] at *
           rw [SameShape, erase_plain rfl, erase_plain rfl]
           simp (disch := first
             | exact alike_of_free rfl _ _
             | exact alike_key (by simp only [*])
             | exact alike_body (by simp only [*])
             | exact alike_head (by simp only [*]) (by simp only [*])
             | exact alike_target (by simp only [*]) (by simp only [*])
             | simp only [*]) [Node.mapParts, erase_eq_iff, *])

end Estree

/-! ## Scripts -/

theorem isShowable_of_grammatical {site : Site} (obeys : node.Obeys grammatical site) :
    node.IsShowable := by
  have admits := (Node.obeys_iff.1 obeys).1
  have lowerable := isLowerable_of_grammatical obeys
  cases node with
  | expressionPattern => exact lowerable
  | forStatement | forInStatement | forOfStatement => exact admits
  | methodProperty => exact admits.1
  | _ => trivial

theorem isTold_of_grammatical {site : Site} (obeys : node.Obeys grammatical site)
    (written : node.Everywhere Node.IsWritten) : node.Everywhere Node.IsTold := by
  induction obeys with
  | intro allowed parts ih =>
      obtain ⟨first, rest⟩ := Node.everywhere_iff.1 written
      refine Node.everywhere_iff.2 ⟨⟨isShowable_of_grammatical (.intro allowed parts), first⟩, ?_⟩
      exact fun part member => ih part member (rest part member)

theorem isTold_of_parse {source : String} {program : Program}
    (accepted : parse source = .ok program) : program.body.Everywhere Node.IsTold := by
  obtain ⟨_, _, ts, between, inside⟩ := covers_of_parseWith accepted
  refine isTold_of_grammatical (inside.grammatical .script) (inside.isWritten rfl rfl ?_)
  intro token member
  obtain ⟨_, _, filled, written⟩ := between.1 token member
  exact written.lexeme_ne_nil filled

theorem withoutOffsets_program {legacy : Bool} (program : Program) :
    Estree.withoutOffsets (program.toEstree legacy) =
      .object [("type", .text "Program"), ("body", program.body.outline),
        ("sourceType", .text "script")] := by
  have body := Estree.drop_toEstree program.body legacy program.start program.stop
  simp only [Exported.whole_list, Json.mapObjects_array] at body
  simp [Estree.withoutOffsets, Program.toEstree, Estree.drop_node, Estree.areOwn, Estree.isOffset,
    Node.outline, body]

/-- Two accepted scripts whose documents are the same without the offsets of the nodes have the same
tree up to positions, whatever the options of the exports. -/
theorem toEstree_faithful {source source' : String} {program program' : Program}
    (accepted : parse source = .ok program) (accepted' : parse source' = .ok program')
    (options options' : ExportOptions)
    (same : Estree.withoutOffsets (program.toEstree options.legacyContainerSpans) =
      Estree.withoutOffsets (program'.toEstree options'.legacyContainerSpans)) :
    program.erase = program'.erase := by
  have bodies : program.body.outline = program'.body.outline := by
    rw [withoutOffsets_program, withoutOffsets_program] at same
    simpa using same
  have shapes : program.body.erase = program'.body.erase :=
    Estree.sameShape_of_outline program.body program'.body (isTold_of_parse accepted)
      (isTold_of_parse accepted') (alike_of_free rfl _ _) bodies
  rw [Program.erase, Program.erase, shapes]

/-- A member of an object, in two scripts that differ in spaces only. -/
theorem toEstree_faithful_computed_member :
    let script (stop start : Nat) : Program :=
      { start := 0, stop
        body := .single (.located 0 stop (.expressionStatement (.located 0 stop
          (.computedMember (.located 0 1 (.identifier "a"))
            (.located start (start + 1) (.identifier "b")))))) }
    parse "a[b]" = .ok (script 4 2) ∧ parse "a[ b ]" = .ok (script 6 3) ∧
      (script 4 2).erase = (script 6 3).erase := by
  intro script
  have reading : parse "a[b]" = .ok (script 4 2) := by decide +kernel
  have reading' : parse "a[ b ]" = .ok (script 6 3) := by decide +kernel
  have same : Estree.withoutOffsets ((script 4 2).toEstree false) =
      Estree.withoutOffsets ((script 6 3).toEstree false) := rfl
  exact ⟨reading, reading', toEstree_faithful reading reading' .standard .standard same⟩

end Ecmascript

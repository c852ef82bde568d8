import Ecmascript.Proofs.Cover.Literal
import Ecmascript.Proofs.Estree.Outline
import Ecmascript.Proofs.Lowering.Rules
import Ecmascript.Proofs.Record.Dump

/-!
# Forms in documents

Several forms of phrases share a type of nodes. A member of an object is computed or not, and a
property is a shorthand, a method or neither; flags among the fields tell these apart. What is left
depends on where a phrase stands: a key, the value of an arrow function and the head of a loop take
the type of what they hold.
-/

set_option autoImplicit false

namespace Ecmascript

namespace Estree

/-- Whether a flag among the fields is set. -/
def isSet (flag : String) (fields : List (String × Json)) : Bool :=
  (fields.lookup flag).bind Json.boolean? = some true

/-- Whether the fields of a property are those of a method or an accessor. -/
def isMethod (fields : List (String × Json)) : Bool :=
  isSet "method" fields || (fields.lookup "kind").bind Json.text? ≠ some "init"

/-- The form that a node of a type shows: the type, or what its flags tell. -/
def formOf (type : String) (fields : List (String × Json)) : String :=
  if type = "MemberExpression" && isSet "computed" fields then "ComputedMember"
  else if type = "Property" && isSet "shorthand" fields then "Shorthand"
  else if type = "Property" && isMethod fields then "Method"
  else type

/-- The form that a document shows. -/
def shownForm : Json → String
  | .object fields => formOf ((nodeType? fields).getD "") fields
  | _ => ""

end Estree

/-- The forms of a category whose nodes show their form, by the name in their descriptions. -/
def Category.shownForms : Category → List (String × String)
  | .statement => [("EmptyStatement", "Empty"), ("DebuggerStatement", "Debugger"),
      ("ExpressionStatement", "Expression"), ("VariableDeclaration", "Declaration"),
      ("FunctionDeclaration", "Function"), ("ClassDeclaration", "Class"),
      ("ReturnStatement", "Return"), ("BreakStatement", "Break"),
      ("ContinueStatement", "Continue"), ("ThrowStatement", "Throw"), ("IfStatement", "If"),
      ("WhileStatement", "While"), ("DoWhileStatement", "Do"), ("ForStatement", "For"),
      ("ForInStatement", "ForIn"), ("ForOfStatement", "ForOf"), ("SwitchStatement", "Switch"),
      ("TryStatement", "Try"), ("BlockStatement", "Block"), ("LabeledStatement", "Labeled")]
  | .member => [("MethodDefinition", "Method"), ("PropertyDefinition", "Field")]
  | .expression => [("ThisExpression", "This"), ("Super", "Super"), ("Identifier", "Identifier"),
      ("Literal", "Value"), ("TemplateLiteral", "Template"),
      ("TaggedTemplateExpression", "TaggedTemplate"), ("ArrayExpression", "Array"),
      ("ObjectExpression", "Object"), ("MemberExpression", "Member"),
      ("ComputedMember", "ComputedMember"), ("CallExpression", "Call"), ("NewExpression", "New"),
      ("UnaryExpression", "Unary"), ("UpdateExpression", "Update"),
      ("BinaryExpression", "Binary"), ("LogicalExpression", "Logical"),
      ("AssignmentExpression", "Assignment"), ("ConditionalExpression", "Conditional"),
      ("SequenceExpression", "Sequence"), ("SpreadElement", "Spread"),
      ("ArrowFunctionExpression", "Arrow"), ("FunctionExpression", "Function"),
      ("ClassExpression", "Class"), ("YieldExpression", "Yield"), ("AwaitExpression", "Await")]
  | .property => [("Shorthand", "Shorthand"), ("Property", "Literal"), ("Method", "Method"),
      ("SpreadElement", "Spread")]
  | .pattern => [("Identifier", "Identifier"), ("MemberExpression", "Expression"),
      ("ComputedMember", "Expression"), ("ArrayPattern", "Array"), ("ObjectPattern", "Object"),
      ("AssignmentPattern", "Assignment"), ("RestElement", "Rest")]
  | .patternProperty => [("Shorthand", "Property"), ("Property", "Property"),
      ("RestElement", "Rest")]
  | _ => []

/-- What a document does not show by itself, and holds of every grammatical tree. -/
def Node.IsShowable : {category : Category} → Node category → Prop
  | _, .expressionPattern expression => expression.isMember = true
  | _, .forStatement head _ _ _ => head.holdsPattern = false
  | _, .forInStatement left _ _ | _, .forOfStatement left _ _ => left.bindsOne = true
  | _, .methodProperty _ kind _ => kind ≠ .constructor
  | _, _ => True

variable {category : Category} {node node' : Node category}

namespace Estree

theorem shownForm_node {type : String} {fields : List (String × Json)} :
    shownForm (.object (("type", .text type) :: fields)) =
      formOf type (("type", .text type) :: fields) := by
  rw [shownForm, nodeType?_cons, Option.getD_some]

/-- The outline of a phrase shows its form. -/
theorem lookup_shownForm (shows : category.shownForms ≠ []) (showable : node.IsShowable) :
    category.shownForms.lookup (shownForm node.outline) = some node.describe.title := by
  cases node with
  | functionDeclaration definition | functionExpression definition =>
      cases definition
      simp [Node.outline, Node.toEstree, function, drop_node, areOwn, isOffset, shownForm_node]
      rfl
  | classDeclaration definition | classExpression definition =>
      cases definition with
      | classDefinition _ _ body =>
          cases body
          simp [Node.outline, Node.toEstree, classOf, drop_node, areOwn, isOffset, shownForm_node]
          rfl
  | templateExpression content =>
      cases content
      simp [Node.outline, Node.toEstree, drop_node, areOwn, isOffset, shownForm_node]
      rfl
  | expressionPattern expression =>
      cases expression with
      | memberExpression _ _ | computedMember _ _ =>
          simp [Node.outline, Node.toEstree, drop_node, areOwn, isOffset, shownForm_node]
          rfl
      | _ => cases showable
  | literal value =>
      cases value <;>
        simp [Node.outline, Node.toEstree, literal, drop_node, areOwn, isOffset, shownForm_node] <;>
        rfl
  | methodProperty key kind value =>
      cases kind with
      | constructor => exact absurd rfl showable
      | _ =>
          simp [Node.outline, Node.toEstree, property, objectMethodKind, drop_node, areOwn,
            isOffset, shownForm_node]
          rfl
  | bindingProperty key value isShorthand =>
      cases isShorthand <;>
        simp [Node.outline, Node.toEstree, property, drop_node, areOwn, isOffset,
          shownForm_node] <;>
        rfl
  | _ =>
      first
        | exact absurd rfl shows
        | (simp [Node.outline, Node.toEstree, variableDeclaration, block, identifier, property,
            drop_node, areOwn, isOffset, shownForm_node]
           rfl)

end Estree

/-! ## Places -/

/-- Whether a key is computed, without its position. -/
def Node.isComputed : Node .key → Bool
  | .computedKey _ => true
  | _ => false

theorem isComputedKey_eq (key : Located .key) : key.isComputedKey = key.item.isComputed := by
  cases key with
  | located _ _ item => cases item <;> rfl

/-- Whether a phrase of a category is exported as one node. -/
def Category.isNode : Category → Bool
  | .located category => category.isNode
  | .list _ | .option _ => false
  | _ => true

/-- Two phrases stand in the same way where their documents do not tell how. -/
def Alike : (category : Category) → Node category → Node category → Prop
  | .located category, node, node' => Alike category node.item node'.item
  | .option category, node, node' =>
      category.isNode = true ∧
        ∀ value value', node = .some value → node' = .some value' → Alike category value value'
  | .list category, _, _ => ∀ node node', Alike category node node'
  | .key, node, node' => node.isComputed = node'.isComputed
  | .arrowBody, node, node' => node.isExpressionBody = node'.isExpressionBody
  | .loopHead, node, node' =>
      (node.holdsPattern = false ∧ node'.holdsPattern = false) ∨
        (node.bindsOne = true ∧ node'.bindsOne = true)
  | _, _, _ => True

/-- Whether documents tell how the phrases of a category stand. -/
def Category.isFree : Category → Bool
  | .located category | .list category => category.isFree
  | .option category => category.isNode && category.isFree
  | .key | .arrowBody | .loopHead => false
  | _ => true

theorem alike_of_free (free : category.isFree = true) (node node' : Node category) :
    Alike category node node' := by
  induction category with
  | located category ih => exact ih free _ _
  | list category ih => exact fun _ _ => ih free _ _
  | option category ih =>
      obtain ⟨isNode, free⟩ := Bool.and_eq_true_iff.1 free
      exact ⟨isNode, fun _ _ _ _ => ih free _ _⟩
  | key | arrowBody | loopHead => cases free
  | _ => trivial

theorem alike_key {key key' : Located .key} (same : key.isComputedKey = key'.isComputedKey) :
    Alike (.located .key) key key' := by
  rwa [isComputedKey_eq, isComputedKey_eq] at same

theorem alike_body {body body' : Node .arrowBody}
    (same : body.isExpressionBody = body'.isExpressionBody) : Alike .arrowBody body body' :=
  same

theorem alike_head {head head' : Optional (.located .loopHead)}
    (plain : head.holdsPattern = false) (plain' : head'.holdsPattern = false) :
    Alike (.option (.located .loopHead)) head head' := by
  refine ⟨rfl, ?_⟩
  rintro ⟨_, _, item⟩ ⟨_, _, item'⟩ rfl rfl
  exact .inl ⟨plain, plain'⟩

theorem alike_target {left left' : Located .loopHead} (single : left.bindsOne = true)
    (single' : left'.bindsOne = true) : Alike (.located .loopHead) left left' := by
  cases left
  cases left'
  exact .inr ⟨single, single'⟩

/-- What tells apart all grammatical trees. -/
def Node.IsTold (node : Node category) : Prop :=
  node.IsShowable ∧ node.IsWritten

/-- What holds throughout a phrase holds throughout its only part. -/
theorem Node.Everywhere.inner {holds : {category : Category} → Node category → Prop}
    {inside : Category} {part : Node inside} (everywhere : node.Everywhere holds)
    (alone : node.parts = [⟨inside, part⟩]) : part.Everywhere holds :=
  (Node.everywhere_iff.1 everywhere).2 ⟨inside, part⟩ (alone ▸ List.mem_singleton.2 rfl)

namespace Estree

/-- Only a declaration shows that it is one. -/
theorem outline_declarationHead_ne (shows : category.shownForms ≠ [])
    (other : category.shownForms.lookup "VariableDeclaration" = none)
    (showable : node.IsShowable) {kind : VariableKind} {declarators : Many (.located .declarator)} :
    (Node.declarationHead kind declarators).outline ≠ node.outline := by
  intro same
  have found := lookup_shownForm shows showable
  have form : shownForm node.outline = "VariableDeclaration" := by
    rw [← same]
    simp [Node.outline, Node.toEstree, variableDeclaration, drop_node, areOwn, isOffset,
      shownForm_node]
    rfl
  rw [form, other] at found
  cases found

theorem outline_nameKey_ne {name : String} {value : LiteralValue} :
    (Node.nameKey name).outline ≠ (Node.literalKey value).outline := by
  cases value <;>
    simp [Node.outline, Node.toEstree, identifier, literal, drop_node, areOwn, isOffset]

/-- The outline of a phrase tells its form. -/
theorem ctorIdx_of_outline (plain : category.isPlain = true) (told : node.Everywhere Node.IsTold)
    (told' : node'.Everywhere Node.IsTold) (alike : Alike category node node')
    (same : node.outline = node'.outline) : node.ctorIdx = node'.ctorIdx := by
  by_cases shows : category.shownForms = []
  · cases category with
    | list | option | located => cases plain
    | key =>
        cases node <;> cases node' <;> first
          | rfl
          | (cases alike; done)
          | exact absurd same outline_nameKey_ne
          | exact absurd same.symm outline_nameKey_ne
    | arrowBody => cases node <;> cases node' <;> first | rfl | cases alike
    | loopHead =>
        have apart {category : Category} {inner : Node category} {kind : VariableKind}
            {declarators : Many (.located .declarator)} (shows : category.shownForms ≠ [])
            (other : category.shownForms.lookup "VariableDeclaration" = none)
            (told : inner.Everywhere Node.IsTold) :
            (Node.declarationHead kind declarators).outline ≠ inner.outline :=
          outline_declarationHead_ne shows other (Node.everywhere_iff.1 told).1.1
        cases node with
        | declarationHead =>
            cases node' with
            | declarationHead => rfl
            | expressionHead | patternHead =>
                exact (apart (by simp [Category.shownForms]) rfl (told'.inner rfl) same).elim
        | expressionHead =>
            cases node' with
            | declarationHead =>
                exact (apart (by simp [Category.shownForms]) rfl (told.inner rfl) same.symm).elim
            | expressionHead => rfl
            | patternHead => rcases alike with ⟨_, pattern⟩ | ⟨expression, _⟩ <;> contradiction
        | patternHead =>
            cases node' with
            | declarationHead =>
                exact (apart (by simp [Category.shownForms]) rfl (told.inner rfl) same.symm).elim
            | expressionHead => rcases alike with ⟨pattern, _⟩ | ⟨_, expression⟩ <;> contradiction
            | patternHead => rfl
    | statement | member | expression | property | pattern | patternProperty => cases shows
    | _ =>
        cases node
        cases node'
        rfl
  · have title := lookup_shownForm shows (Node.everywhere_iff.1 told).1.1
    have title' := lookup_shownForm shows (Node.everywhere_iff.1 told').1.1
    rw [same, title'] at title
    rw [ctorIdx_eq_idxOf plain, ctorIdx_eq_idxOf plain, Option.some.inj title]

end Estree

end Ecmascript

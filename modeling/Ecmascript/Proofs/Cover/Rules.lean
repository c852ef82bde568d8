import Ecmascript.Proofs.Cover.Basic
import Ecmascript.Proofs.Tree.Leaf

/-!
# The rules of the grammar

`Covers scope role tokens node` says that a list of tokens holds a phrase in a role. Tokens that
belong to the phrase but to none of its parts, such as parentheses, are allowed around any part. A
located phrase has the offsets of the tokens that it is made of, and a leaf is a single token.
-/

set_option autoImplicit false

namespace Ecmascript

open Category

/-- A phrase that becomes another one of the same tokens: what is a statement of its own, the head
of a loop, or the target of an assignment. -/
inductive Wraps : Role → {inner : Category} → Node inner → Role → {outer : Category} →
    Node outer → Prop
  | functionDeclaration (definition : Node .function) :
      Wraps .phrase definition .inner (.functionDeclaration definition)
  | classDeclaration (definition : Node .classDefinition) :
      Wraps .phrase definition .inner (.classDeclaration definition)
  | blockStatement (body : Many (.located .statement)) :
      Wraps .phrase (.block body) .inner (.blockStatement body)
  | functionExpression (definition : Node .function) :
      Wraps .phrase definition .phrase (.functionExpression definition)
  | classExpression (definition : Node .classDefinition) :
      Wraps .phrase definition .phrase (.classExpression definition)
  | templateExpression (content : Node .template) :
      Wraps .phrase content .phrase (.templateExpression content)
  | expressionHead (expression : Node .expression) :
      Wraps .phrase expression .phrase (.expressionHead expression)
  | patternHead (pattern : Node .pattern) :
      Wraps (.target .assignment) pattern .phrase (.patternHead pattern)
  | bindingName (use : Parser.PatternUse) (name : String) :
      Wraps .phrase (.word name) (.target use) (.bindingIdentifier name)
  | identifierTarget (name : String) :
      Wraps .phrase (.identifier name) (.target .assignment) (.bindingIdentifier name)
  | memberTarget (object : Located .expression) (property : Located .word) :
      Wraps .phrase (.memberExpression object property) (.target .assignment)
        (.expressionPattern (.memberExpression object property))
  | computedTarget (object property : Located .expression) :
      Wraps .phrase (.computedMember object property) (.target .assignment)
        (.expressionPattern (.computedMember object property))

/-- What holds throughout a phrase holds throughout what it becomes. -/
theorem Wraps.everywhere {role role' : Role} {inner outer : Category} {node : Node inner}
    {node' : Node outer} {holds : {category : Category} → Node category → Prop}
    (wraps : Wraps role node role' node') (own : holds node') (inside : node.Everywhere holds) :
    node'.Everywhere holds := by
  apply Node.everywhere_iff.2
  cases wraps with
  | blockStatement body => exact ⟨own, (Node.everywhere_iff.1 inside).2⟩
  | bindingName _ _ | identifierTarget _ => exact ⟨own, nofun⟩
  | _ => exact ⟨own, List.forall_mem_singleton.2 inside⟩

/-- A list of tokens holds a phrase. -/
inductive Covers : Scope → Role → List Token → {category : Category} → Node category → Prop
  -- Around phrases
  | wider {σ role ts category} {node : Node category} (front back : List Token)
      (inside : Covers σ role ts node) (bare : node.text? = Option.none) :
      Covers σ role (front ++ (ts ++ back)) node
  | deeper {σ role ts category} {node : Node category} (inside : Covers σ.deeper role ts node) :
      Covers σ role ts node
  | located {σ role ts start stop category} {node : Node category}
      (spans : Token.Spans ts start stop) (inside : Covers σ role ts node) :
      Covers σ role ts (.located start stop node)
  | wraps {σ role role' ts start stop category category'} {node : Node category}
      {node' : Node category'} (wraps : Wraps role node role' node')
      (inside : Covers σ role ts (.located start stop node)) :
      Covers σ role' ts (.located start stop node')
  | argument {σ ts category} {node : Node category} (inside : Covers σ .phrase ts node) :
      Covers σ .argument ts node
  | element {σ use ts category} {node : Node category} (inside : Covers σ (.target use) ts node) :
      Covers σ (.element use) ts node
  | item {σ use ts category} {node : Node category} (inside : Covers σ (.element use) ts node) :
      Covers σ (.item use) ts node
  -- Lists
  | nil {σ role ts category} : Covers σ role ts (.nil : Many category)
  | cons {σ role ts ts' category} {head : Node category} {tail : Many category}
      (first : Covers σ role.front ts head) (rest : Covers σ role ts' tail) :
      Covers σ role (ts ++ ts') (.cons head tail)
  | last {σ role ts category} {head : Node category} (only : Covers σ role ts head) :
      Covers σ role ts (.cons head .nil)
  | none {σ role ts category} : Covers σ role ts (.none : Optional category)
  | some {σ role ts category} {value : Node category} (inside : Covers σ role ts value) :
      Covers σ role ts (.some value)
  -- Single tokens
  | word {σ token name} (named : Parser.propertyName? token.kind = Option.some name) :
      Covers σ .phrase [token] (.word name)
  | chunk {σ token part raw} (kind : token.kind = .template part raw) :
      Covers σ .chunk [token]
        (.located (token.start + 1) (token.stop - part.closing.byteLength) (.word raw))
  | plainExpression {σ token expression}
      (plain : Parser.plainExpression? token.kind = Option.some expression) :
      Covers σ .phrase [token] expression
  | plainKey {σ token key} (plain : Parser.plainKey? token.kind = Option.some key) :
      Covers σ .phrase [token] key
  | bindingIdentifier {σ use token name} (named : token.kind = .identifier name) :
      Covers σ (.target use) [token] (.bindingIdentifier name)
  | shorthandProperty {σ token name} (named : token.kind = .identifier name) :
      Covers σ .phrase [token] (.shorthandProperty name)
  -- Statements
  | statement {σ ts start stop} {item : Node statement} (room : σ.depth < Parser.maxNesting)
      (inside : Covers σ.deeper .inner ts (.located start stop item)) :
      Covers σ .phrase ts (.located start stop item)
  | emptyStatement {σ ts} : Covers σ .inner ts .emptyStatement
  | debuggerStatement {σ ts} : Covers σ .inner ts .debuggerStatement
  | expressionStatement {σ ts expression} (inside : Covers σ .phrase ts expression) :
      Covers σ .inner ts (.expressionStatement expression)
  | variableStatement {σ ts kind declarators} (declares : 1 ≤ declarators.count)
      (inside : Covers σ .phrase ts declarators) :
      Covers σ .inner ts (.variableStatement kind declarators)
  | returnStatement {σ ts value} (inFunction : σ.inFunction = true)
      (inside : Covers σ .phrase ts value) : Covers σ .inner ts (.returnStatement value)
  | breakStatement {σ ts label} (inside : Covers σ .phrase ts label) :
      Covers σ .inner ts (.breakStatement label)
  | continueStatement {σ ts label} (inside : Covers σ .phrase ts label) :
      Covers σ .inner ts (.continueStatement label)
  | throwStatement {σ ts value} (inside : Covers σ .phrase ts value) :
      Covers σ .inner ts (.throwStatement value)
  | ifStatement {σ ts ts' ts'' test consequent alternate} (first : Covers σ .phrase ts test)
      (second : Covers σ .phrase ts' consequent) (third : Covers σ .phrase ts'' alternate) :
      Covers σ .inner (ts ++ (ts' ++ ts'')) (.ifStatement test consequent alternate)
  | whileStatement {σ ts ts' test body} (first : Covers σ .phrase ts test)
      (second : Covers σ .phrase ts' body) : Covers σ .inner (ts ++ ts') (.whileStatement test body)
  | doStatement {σ ts ts' body test} (first : Covers σ .phrase ts body)
      (second : Covers σ .phrase ts' test) : Covers σ .inner (ts ++ ts') (.doStatement body test)
  | forStatement {σ ts ts' ts'' ts''' head test update body} (plain : head.holdsPattern = false)
      (first : Covers σ .phrase ts head) (second : Covers σ .phrase ts' test)
      (third : Covers σ .phrase ts'' update) (fourth : Covers σ .phrase ts''' body) :
      Covers σ .inner (ts ++ (ts' ++ (ts'' ++ ts'''))) (.forStatement head test update body)
  | forInStatement {σ ts ts' ts'' left right body} (single : left.bindsOne = true)
      (first : Covers σ .phrase ts left) (second : Covers σ .phrase ts' right)
      (third : Covers σ .phrase ts'' body) :
      Covers σ .inner (ts ++ (ts' ++ ts'')) (.forInStatement left right body)
  | forOfStatement {σ ts ts' ts'' left right body} (single : left.bindsOne = true)
      (first : Covers σ .phrase ts left) (second : Covers σ .phrase ts' right)
      (third : Covers σ .phrase ts'' body) :
      Covers σ .inner (ts ++ (ts' ++ ts'')) (.forOfStatement left right body)
  | switchStatement {σ ts ts' discriminant cases} (first : Covers σ .phrase ts discriminant)
      (second : Covers σ .phrase ts' cases) :
      Covers σ .inner (ts ++ ts') (.switchStatement discriminant cases)
  | tryStatement {σ ts ts' ts'' body clause finalizer}
      (handled : clause ≠ .none ∨ finalizer ≠ .none) (first : Covers σ .phrase ts body)
      (second : Covers σ .phrase ts' clause) (third : Covers σ .phrase ts'' finalizer) :
      Covers σ .inner (ts ++ (ts' ++ ts'')) (.tryStatement body clause finalizer)
  | labeledStatement {σ ts ts' label body} (first : Covers σ .phrase ts label)
      (second : Covers σ .phrase ts' body) :
      Covers σ .inner (ts ++ ts') (.labeledStatement label body)
  -- Parts of statements
  | declarator {σ ts ts' id value} (first : Covers σ (.target .binding) ts id)
      (second : Covers σ .phrase ts' value) : Covers σ .phrase (ts ++ ts') (.declarator id value)
  | declarationHead {σ ts kind declarators} (declares : 1 ≤ declarators.count)
      (inside : Covers σ .phrase ts declarators) :
      Covers σ .phrase ts (.declarationHead kind declarators)
  | block {σ ts body} (inside : Covers σ .phrase ts body) : Covers σ .phrase ts (.block body)
  | handler {σ ts ts' parameter body} (first : Covers σ (.target .binding) ts parameter)
      (second : Covers σ .phrase ts' body) : Covers σ .phrase (ts ++ ts') (.handler parameter body)
  | switchCase {σ ts ts' test consequent} (first : Covers σ .phrase ts test)
      (second : Covers σ .phrase ts' consequent) :
      Covers σ .phrase (ts ++ ts') (.switchCase test consequent)
  -- Functions and classes
  | function {σ : Scope} {ts ts' ts'' name isGenerator isAsync parameters body}
      (first : Covers σ .phrase ts name)
      (second : Covers (σ.function isAsync isGenerator) (.item .binding) ts' parameters)
      (third : Covers (σ.function isAsync isGenerator) .phrase ts'' body) :
      Covers σ .phrase (ts ++ (ts' ++ ts'')) (.function name isGenerator isAsync parameters body)
  | classDefinition {σ ts ts' ts'' name parent body} (first : Covers σ .phrase ts name)
      (second : Covers σ .phrase ts' parent) (third : Covers σ .phrase ts'' body) :
      Covers σ .phrase (ts ++ (ts' ++ ts'')) (.classDefinition name parent body)
  | methodMember {σ ts ts' isStatic key kind value} (suits : kind.Suits value)
      (first : Covers σ .phrase ts key) (second : Covers σ .phrase ts' value) :
      Covers σ .phrase (ts ++ ts') (.methodMember isStatic key kind value)
  | fieldMember {σ : Scope} {ts ts' isStatic key value} (first : Covers σ .phrase ts key)
      (second : Covers σ.field .phrase ts' value) :
      Covers σ .phrase (ts ++ ts') (.fieldMember isStatic key value)
  | computedKey {σ ts expression} (inside : Covers σ .phrase ts expression) :
      Covers σ .phrase ts (.computedKey expression)
  -- Expressions
  | taggedTemplate {σ ts ts' tag quasi} (first : Covers σ .phrase ts tag)
      (second : Covers σ .phrase ts' quasi) :
      Covers σ .phrase (ts ++ ts') (.taggedTemplate tag quasi)
  | arrayExpression {σ ts elements} (inside : Covers σ .argument ts elements) :
      Covers σ .phrase ts (.arrayExpression elements)
  | objectExpression {σ ts properties} (inside : Covers σ .phrase ts properties) :
      Covers σ .phrase ts (.objectExpression properties)
  | memberExpression {σ ts ts' object property} (first : Covers σ .phrase ts object)
      (second : Covers σ .phrase ts' property) :
      Covers σ .phrase (ts ++ ts') (.memberExpression object property)
  | computedMember {σ ts ts' object property} (first : Covers σ .phrase ts object)
      (second : Covers σ .phrase ts' property) :
      Covers σ .phrase (ts ++ ts') (.computedMember object property)
  | callExpression {σ ts ts' callee arguments} (first : Covers σ .phrase ts callee)
      (second : Covers σ .argument ts' arguments) :
      Covers σ .phrase (ts ++ ts') (.callExpression callee arguments)
  | newExpression {σ ts ts' callee arguments} (first : Covers σ .phrase ts callee)
      (second : Covers σ .argument ts' arguments) :
      Covers σ .phrase (ts ++ ts') (.newExpression callee arguments)
  | unaryExpression {σ : Scope} {ts operator argument} (room : σ.depth < Parser.maxNesting)
      (inside : Covers σ.deeper .phrase ts argument) :
      Covers σ .phrase ts (.unaryExpression operator argument)
  | prefixUpdate {σ : Scope} {ts operator argument} (room : σ.depth < Parser.maxNesting)
      (simple : argument.item.isSimpleTarget = true)
      (inside : Covers σ.deeper .phrase ts argument) :
      Covers σ .phrase ts (.updateExpression operator true argument)
  | postfixUpdate {σ ts operator argument} (simple : argument.item.isSimpleTarget = true)
      (inside : Covers σ .phrase ts argument) :
      Covers σ .phrase ts (.updateExpression operator false argument)
  | binaryExpression {σ ts ts' operator left right} (first : Covers σ .phrase ts left)
      (second : Covers σ .phrase ts' right) :
      Covers σ .phrase (ts ++ ts') (.binaryExpression operator left right)
  | logicalExpression {σ ts ts' operator left right} (first : Covers σ .phrase ts left)
      (second : Covers σ .phrase ts' right) :
      Covers σ .phrase (ts ++ ts') (.logicalExpression operator left right)
  | assignmentExpression {σ ts ts' operator left right}
      (simple : operator = .assign ∨ left.isSimplePattern = true)
      (first : Covers σ (.target .assignment) ts left) (second : Covers σ .phrase ts' right) :
      Covers σ .phrase (ts ++ ts') (.assignmentExpression operator left right)
  | conditionalExpression {σ ts ts' ts'' test consequent alternate}
      (first : Covers σ .phrase ts test) (second : Covers σ .phrase ts' consequent)
      (third : Covers σ .phrase ts'' alternate) :
      Covers σ .phrase (ts ++ (ts' ++ ts'')) (.conditionalExpression test consequent alternate)
  | sequenceExpression {σ ts expressions} (several : 2 ≤ expressions.count)
      (inside : Covers σ .phrase ts expressions) :
      Covers σ .phrase ts (.sequenceExpression expressions)
  | spreadExpression {σ ts argument} (inside : Covers σ .phrase ts argument) :
      Covers σ .argument ts (.spreadExpression argument)
  | arrowFunction {σ : Scope} {ts ts' isAsync parameters body}
      (first : Covers σ (.item .binding) ts parameters)
      (second : Covers (σ.function isAsync false) .phrase ts' body) :
      Covers σ .phrase (ts ++ ts') (.arrowFunction isAsync parameters body)
  | yieldExpression {σ : Scope} {ts argument isDelegate} (inGenerator : σ.inGenerator = true)
      (inside : Covers σ .phrase ts argument) :
      Covers σ .phrase ts (.yieldExpression argument isDelegate)
  | awaitExpression {σ : Scope} {ts argument} (inAsync : σ.inAsync = true)
      (room : σ.depth < Parser.maxNesting) (inside : Covers σ.deeper .phrase ts argument) :
      Covers σ .phrase ts (.awaitExpression argument)
  | expressionBody {σ ts expression} (inside : Covers σ .phrase ts expression) :
      Covers σ .phrase ts (.expressionBody expression)
  | blockBody {σ ts body} (inside : Covers σ .phrase ts body) : Covers σ .phrase ts (.blockBody body)
  -- Chunks and expressions of a template alternate.
  | wholeTemplate {σ ts chunk} (only : Covers σ .chunk ts chunk) :
      Covers σ .phrase ts (.template (.cons chunk .nil) .nil)
  | longerTemplate {σ ts ts' ts'' chunk expression chunks expressions}
      (first : Covers σ .chunk ts chunk) (second : Covers σ .phrase ts' expression)
      (rest : Covers σ .phrase ts'' (.template chunks expressions)) :
      Covers σ .phrase (ts ++ (ts' ++ ts''))
        (.template (.cons chunk chunks) (.cons expression expressions))
  -- Properties of objects
  | valueProperty {σ ts ts' key value} (first : Covers σ .phrase ts key)
      (second : Covers σ .phrase ts' value) : Covers σ .phrase (ts ++ ts') (.valueProperty key value)
  | methodProperty {σ ts ts' key kind value} (plain : kind ≠ .constructor) (suits : kind.Suits value)
      (first : Covers σ .phrase ts key) (second : Covers σ .phrase ts' value) :
      Covers σ .phrase (ts ++ ts') (.methodProperty key kind value)
  | spreadProperty {σ ts argument} (inside : Covers σ .phrase ts argument) :
      Covers σ .phrase ts (.spreadProperty argument)
  -- Patterns
  | arrayPattern {σ : Scope} {use ts elements} (room : σ.depth < Parser.maxNesting)
      (inside : Covers σ.deeper (.item use) ts elements) :
      Covers σ (.target use) ts (.arrayPattern elements)
  | objectPattern {σ : Scope} {use ts properties} (room : σ.depth < Parser.maxNesting)
      (inside : Covers σ.deeper (.item use) ts properties) :
      Covers σ (.target use) ts (.objectPattern properties)
  | defaultPattern {σ use ts ts' left right} (first : Covers σ (.target use) ts left)
      (second : Covers σ .phrase ts' right) :
      Covers σ (.element use) (ts ++ ts') (.defaultPattern left right)
  | restPattern {σ use ts argument} (inside : Covers σ (.target use) ts argument) :
      Covers σ (.item use) ts (.restPattern argument)
  | bindingProperty {σ use ts ts' key value} (first : Covers σ .phrase ts key)
      (second : Covers σ (.element use) ts' value) :
      Covers σ (.element use) (ts ++ ts') (.bindingProperty key value false)
  -- The name of a shorthand property is the key and the beginning of the value.
  | shorthandBinding {σ use token ts name value} (named : token.kind = .identifier name)
      (inside : Covers σ (.element use) (token :: ts) value) :
      Covers σ (.element use) (token :: ts)
        (.bindingProperty (.located token.start token.stop (.nameKey name)) value true)
  | restProperty {σ use ts argument} (inside : Covers σ (.target use) ts argument) :
      Covers σ (.item use) ts (.restProperty argument)

namespace Covers

variable {σ : Scope} {role : Role} {ts : List Token} {category : Category} {node : Node category}

/-- Tokens in front of a phrase. -/
theorem behind (front : List Token) (inside : Covers σ role ts node)
    (bare : node.text? = Option.none) : Covers σ role (front ++ ts) node := by
  simpa using inside.wider front [] bare

/-- Tokens behind a phrase. -/
theorem before (back : List Token) (inside : Covers σ role ts node)
    (bare : node.text? = Option.none) : Covers σ role (ts ++ back) node := by
  simpa using inside.wider [] back bare

/-- A located phrase has tokens. -/
theorem ne_nil {inner : Category} (inside : Covers σ role ts node)
    (same : category = .located inner) : ts ≠ [] := by
  induction inside generalizing inner with
  | wider front back _ _ ih => simp [ih same]
  | deeper _ ih | argument _ ih | element _ ih | item _ ih => exact ih same
  | wraps _ _ ih | statement _ _ ih => exact ih rfl
  | located spans _ _ =>
      obtain ⟨first, _, head, _⟩ := spans
      rintro rfl
      cases head
  | chunk _ => nofun
  | _ => cases same

end Covers

/-! ## Phrases that are a single token -/

theorem parts_plainExpression {kind : TokenKind} {expression : Node .expression}
    (plain : Parser.plainExpression? kind = some expression) : expression.parts = [] := by
  unfold Parser.plainExpression? at plain
  split at plain <;> cases plain <;> rfl

theorem parts_plainKey {kind : TokenKind} {key : Node .key}
    (plain : Parser.plainKey? kind = some key) : key.parts = [] := by
  unfold Parser.plainKey? at plain
  split at plain
  · cases plain
    rfl
  · cases plain
    rfl
  · obtain ⟨name, _, rfl⟩ := Option.map_eq_some_iff.1 plain
    rfl

end Ecmascript

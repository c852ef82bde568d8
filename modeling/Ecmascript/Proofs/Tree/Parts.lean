import Ecmascript.Tree.Rebuild

/-!
# Parts of phrases

A phrase is made of smaller ones. What holds of a tree because it holds of its parts, and a map
that leaves the form of a phrase as it is, are said here once for all categories, so that a proof
about trees looks only at the phrases that it is about.
-/

set_option autoImplicit false

namespace Ecmascript

namespace Node

/-- A phrase of any category, as a part of another one. -/
abbrev Part := (category : Category) × Node category

/-- The phrases that a phrase is directly made of, from left to right. -/
def parts : {category : Category} → Node category → List Part
  | _, .nil => []
  | _, .cons head tail => [⟨_, head⟩, ⟨_, tail⟩]
  | _, .none => []
  | _, .some value => [⟨_, value⟩]
  | _, .located _ _ item => [⟨_, item⟩]
  | _, .word _ => []
  | _, .emptyStatement => []
  | _, .debuggerStatement => []
  | _, .expressionStatement expression => [⟨_, expression⟩]
  | _, .variableStatement _ declarators => [⟨_, declarators⟩]
  | _, .functionDeclaration definition => [⟨_, definition⟩]
  | _, .classDeclaration definition => [⟨_, definition⟩]
  | _, .returnStatement value => [⟨_, value⟩]
  | _, .breakStatement label => [⟨_, label⟩]
  | _, .continueStatement label => [⟨_, label⟩]
  | _, .throwStatement value => [⟨_, value⟩]
  | _, .ifStatement test consequent alternate => [⟨_, test⟩, ⟨_, consequent⟩, ⟨_, alternate⟩]
  | _, .whileStatement test body => [⟨_, test⟩, ⟨_, body⟩]
  | _, .doStatement body test => [⟨_, body⟩, ⟨_, test⟩]
  | _, .forStatement head test update body => [⟨_, head⟩, ⟨_, test⟩, ⟨_, update⟩, ⟨_, body⟩]
  | _, .forInStatement left right body => [⟨_, left⟩, ⟨_, right⟩, ⟨_, body⟩]
  | _, .forOfStatement left right body => [⟨_, left⟩, ⟨_, right⟩, ⟨_, body⟩]
  | _, .switchStatement discriminant cases => [⟨_, discriminant⟩, ⟨_, cases⟩]
  | _, .tryStatement body clause finalizer => [⟨_, body⟩, ⟨_, clause⟩, ⟨_, finalizer⟩]
  | _, .blockStatement body => [⟨_, body⟩]
  | _, .labeledStatement label body => [⟨_, label⟩, ⟨_, body⟩]
  | _, .declarator id value => [⟨_, id⟩, ⟨_, value⟩]
  | _, .declarationHead _ declarators => [⟨_, declarators⟩]
  | _, .expressionHead expression => [⟨_, expression⟩]
  | _, .patternHead pattern => [⟨_, pattern⟩]
  | _, .block body => [⟨_, body⟩]
  | _, .handler parameter body => [⟨_, parameter⟩, ⟨_, body⟩]
  | _, .switchCase test consequent => [⟨_, test⟩, ⟨_, consequent⟩]
  | _, .function name _ _ parameters body => [⟨_, name⟩, ⟨_, parameters⟩, ⟨_, body⟩]
  | _, .classDefinition name parent body => [⟨_, name⟩, ⟨_, parent⟩, ⟨_, body⟩]
  | _, .methodMember _ key _ value => [⟨_, key⟩, ⟨_, value⟩]
  | _, .fieldMember _ key value => [⟨_, key⟩, ⟨_, value⟩]
  | _, .nameKey _ => []
  | _, .literalKey _ => []
  | _, .computedKey expression => [⟨_, expression⟩]
  | _, .thisExpression => []
  | _, .superExpression => []
  | _, .identifier _ => []
  | _, .literal _ => []
  | _, .templateExpression content => [⟨_, content⟩]
  | _, .taggedTemplate tag quasi => [⟨_, tag⟩, ⟨_, quasi⟩]
  | _, .arrayExpression elements => [⟨_, elements⟩]
  | _, .objectExpression properties => [⟨_, properties⟩]
  | _, .memberExpression object property => [⟨_, object⟩, ⟨_, property⟩]
  | _, .computedMember object property => [⟨_, object⟩, ⟨_, property⟩]
  | _, .callExpression callee arguments => [⟨_, callee⟩, ⟨_, arguments⟩]
  | _, .newExpression callee arguments => [⟨_, callee⟩, ⟨_, arguments⟩]
  | _, .unaryExpression _ argument => [⟨_, argument⟩]
  | _, .updateExpression _ _ argument => [⟨_, argument⟩]
  | _, .binaryExpression _ left right => [⟨_, left⟩, ⟨_, right⟩]
  | _, .logicalExpression _ left right => [⟨_, left⟩, ⟨_, right⟩]
  | _, .assignmentExpression _ left right => [⟨_, left⟩, ⟨_, right⟩]
  | _, .conditionalExpression test consequent alternate =>
      [⟨_, test⟩, ⟨_, consequent⟩, ⟨_, alternate⟩]
  | _, .sequenceExpression expressions => [⟨_, expressions⟩]
  | _, .spreadExpression argument => [⟨_, argument⟩]
  | _, .arrowFunction _ parameters body => [⟨_, parameters⟩, ⟨_, body⟩]
  | _, .functionExpression definition => [⟨_, definition⟩]
  | _, .classExpression definition => [⟨_, definition⟩]
  | _, .yieldExpression argument _ => [⟨_, argument⟩]
  | _, .awaitExpression argument => [⟨_, argument⟩]
  | _, .template chunks expressions => [⟨_, chunks⟩, ⟨_, expressions⟩]
  | _, .expressionBody expression => [⟨_, expression⟩]
  | _, .blockBody body => [⟨_, body⟩]
  | _, .shorthandProperty _ => []
  | _, .valueProperty key value => [⟨_, key⟩, ⟨_, value⟩]
  | _, .methodProperty key _ value => [⟨_, key⟩, ⟨_, value⟩]
  | _, .spreadProperty argument => [⟨_, argument⟩]
  | _, .bindingIdentifier _ => []
  | _, .expressionPattern expression => [⟨_, expression⟩]
  | _, .arrayPattern elements => [⟨_, elements⟩]
  | _, .objectPattern properties => [⟨_, properties⟩]
  | _, .defaultPattern left right => [⟨_, left⟩, ⟨_, right⟩]
  | _, .restPattern argument => [⟨_, argument⟩]
  | _, .bindingProperty key value _ => [⟨_, key⟩, ⟨_, value⟩]
  | _, .restProperty argument => [⟨_, argument⟩]

/-- The phrase of the same form with every part replaced. -/
def mapParts (f : {category : Category} → Node category → Node category) :
    {category : Category} → Node category → Node category
  | _, .nil => .nil
  | _, .cons head tail => .cons (f head) (f tail)
  | _, .none => .none
  | _, .some value => .some (f value)
  | _, .located start stop item => .located start stop (f item)
  | _, .word raw => .word raw
  | _, .emptyStatement => .emptyStatement
  | _, .debuggerStatement => .debuggerStatement
  | _, .expressionStatement expression => .expressionStatement (f expression)
  | _, .variableStatement kind declarators => .variableStatement kind (f declarators)
  | _, .functionDeclaration definition => .functionDeclaration (f definition)
  | _, .classDeclaration definition => .classDeclaration (f definition)
  | _, .returnStatement value => .returnStatement (f value)
  | _, .breakStatement label => .breakStatement (f label)
  | _, .continueStatement label => .continueStatement (f label)
  | _, .throwStatement value => .throwStatement (f value)
  | _, .ifStatement test consequent alternate => .ifStatement (f test) (f consequent) (f alternate)
  | _, .whileStatement test body => .whileStatement (f test) (f body)
  | _, .doStatement body test => .doStatement (f body) (f test)
  | _, .forStatement head test update body => .forStatement (f head) (f test) (f update) (f body)
  | _, .forInStatement left right body => .forInStatement (f left) (f right) (f body)
  | _, .forOfStatement left right body => .forOfStatement (f left) (f right) (f body)
  | _, .switchStatement discriminant cases => .switchStatement (f discriminant) (f cases)
  | _, .tryStatement body clause finalizer => .tryStatement (f body) (f clause) (f finalizer)
  | _, .blockStatement body => .blockStatement (f body)
  | _, .labeledStatement label body => .labeledStatement (f label) (f body)
  | _, .declarator id value => .declarator (f id) (f value)
  | _, .declarationHead kind declarators => .declarationHead kind (f declarators)
  | _, .expressionHead expression => .expressionHead (f expression)
  | _, .patternHead pattern => .patternHead (f pattern)
  | _, .block body => .block (f body)
  | _, .handler parameter body => .handler (f parameter) (f body)
  | _, .switchCase test consequent => .switchCase (f test) (f consequent)
  | _, .function name isGenerator isAsync parameters body =>
      .function (f name) isGenerator isAsync (f parameters) (f body)
  | _, .classDefinition name parent body => .classDefinition (f name) (f parent) (f body)
  | _, .methodMember isStatic key kind value => .methodMember isStatic (f key) kind (f value)
  | _, .fieldMember isStatic key value => .fieldMember isStatic (f key) (f value)
  | _, .nameKey name => .nameKey name
  | _, .literalKey value => .literalKey value
  | _, .computedKey expression => .computedKey (f expression)
  | _, .thisExpression => .thisExpression
  | _, .superExpression => .superExpression
  | _, .identifier name => .identifier name
  | _, .literal value => .literal value
  | _, .templateExpression content => .templateExpression (f content)
  | _, .taggedTemplate tag quasi => .taggedTemplate (f tag) (f quasi)
  | _, .arrayExpression elements => .arrayExpression (f elements)
  | _, .objectExpression properties => .objectExpression (f properties)
  | _, .memberExpression object property => .memberExpression (f object) (f property)
  | _, .computedMember object property => .computedMember (f object) (f property)
  | _, .callExpression callee arguments => .callExpression (f callee) (f arguments)
  | _, .newExpression callee arguments => .newExpression (f callee) (f arguments)
  | _, .unaryExpression operator argument => .unaryExpression operator (f argument)
  | _, .updateExpression operator isPrefix argument =>
      .updateExpression operator isPrefix (f argument)
  | _, .binaryExpression operator left right => .binaryExpression operator (f left) (f right)
  | _, .logicalExpression operator left right => .logicalExpression operator (f left) (f right)
  | _, .assignmentExpression operator left right =>
      .assignmentExpression operator (f left) (f right)
  | _, .conditionalExpression test consequent alternate =>
      .conditionalExpression (f test) (f consequent) (f alternate)
  | _, .sequenceExpression expressions => .sequenceExpression (f expressions)
  | _, .spreadExpression argument => .spreadExpression (f argument)
  | _, .arrowFunction isAsync parameters body => .arrowFunction isAsync (f parameters) (f body)
  | _, .functionExpression definition => .functionExpression (f definition)
  | _, .classExpression definition => .classExpression (f definition)
  | _, .yieldExpression argument isDelegate => .yieldExpression (f argument) isDelegate
  | _, .awaitExpression argument => .awaitExpression (f argument)
  | _, .template chunks expressions => .template (f chunks) (f expressions)
  | _, .expressionBody expression => .expressionBody (f expression)
  | _, .blockBody body => .blockBody (f body)
  | _, .shorthandProperty name => .shorthandProperty name
  | _, .valueProperty key value => .valueProperty (f key) (f value)
  | _, .methodProperty key kind value => .methodProperty (f key) kind (f value)
  | _, .spreadProperty argument => .spreadProperty (f argument)
  | _, .bindingIdentifier name => .bindingIdentifier name
  | _, .expressionPattern expression => .expressionPattern (f expression)
  | _, .arrayPattern elements => .arrayPattern (f elements)
  | _, .objectPattern properties => .objectPattern (f properties)
  | _, .defaultPattern left right => .defaultPattern (f left) (f right)
  | _, .restPattern argument => .restPattern (f argument)
  | _, .bindingProperty key value isShorthand => .bindingProperty (f key) (f value) isShorthand
  | _, .restProperty argument => .restProperty (f argument)

variable {category : Category} {node : Node category}


/-- Induction on trees: a phrase after its parts. -/
theorem induction_on_parts {motive : {category : Category} → Node category → Prop}
    (step : ∀ {category : Category} (node : Node category),
      (∀ part ∈ node.parts, motive part.2) → motive node)
    (node : Node category) : motive node := by
  induction node <;> apply step <;> clear step <;> dsimp only [parts] <;> simp [*]

/-- A map of the parts looks at the parts only. -/
theorem mapParts_congr {f g : {category : Category} → Node category → Node category}
    (same : ∀ part ∈ node.parts, f part.2 = g part.2) : node.mapParts f = node.mapParts g := by
  cases node <;> dsimp only [parts] at same <;> dsimp only [mapParts] <;> simp at same <;>
    simp [same]

theorem mapParts_id : node.mapParts (fun part => part) = node := by
  cases node <;> rfl

theorem mapParts_mapParts (f g : {category : Category} → Node category → Node category) :
    (node.mapParts f).mapParts g = node.mapParts fun part => g (f part) := by
  cases node <;> rfl

theorem parts_mapParts (f : {category : Category} → Node category → Node category) :
    (node.mapParts f).parts = node.parts.map fun part => ⟨part.1, f part.2⟩ := by
  cases node <;> rfl

end Node

end Ecmascript

import Ecmascript.Parser.Pattern
import Ecmascript.Proofs.Tree.Discipline

/-!
# Grammatical trees

What the printer and the rewriting of trees rely on, and the type of trees does not enforce. Some
of it concerns a phrase and its direct parts, such as the number of chunks of a template. The rest
depends on where the phrase stands: whether a pattern declares names, whether an element may be
spread, and which function is the nearest one around a phrase.
-/

set_option autoImplicit false

namespace Ecmascript

open Category

namespace Node

/-- Whether the head of a loop is a destructuring target. -/
def holdsPattern : {category : Category} → Node category → Bool
  | _, .some value => value.holdsPattern
  | _, .located _ _ item => item.holdsPattern
  | _, .patternHead _ => true
  | _, _ => false

/-- Whether the head of a loop names a single target. -/
def bindsOne : {category : Category} → Node category → Bool
  | _, .located _ _ item => item.bindsOne
  | _, .patternHead _ => true
  | _, .declarationHead _ declarators => declarators.count = 1
  | _, _ => false

/-- Whether a function is neither a generator nor asynchronous. -/
def isPlainFunction : {category : Category} → Node category → Bool
  | _, .located _ _ item => item.isPlainFunction
  | _, .function _ isGenerator isAsync _ _ => !isGenerator && !isAsync
  | _, _ => false

/-- Whether a pattern is a name or a member of an object. -/
def isSimplePattern : {category : Category} → Node category → Bool
  | _, .located _ _ item => item.isSimplePattern
  | _, .bindingIdentifier _ => true
  | _, .expressionPattern _ => true
  | _, _ => false

end Node

/-- An accessor is a plain function. -/
def MethodKind.Suits (kind : MethodKind) (value : Located .function) : Prop :=
  kind = .get ∨ kind = .set → value.isPlainFunction = true

/-- Where a phrase stands. The first three say what the nearest function with its parameters, body
of an arrow function or value of a field is. A pattern that is part of a declaration names
variables only. -/
structure Site where
  inFunction : Bool
  inGenerator : Bool
  inAsync : Bool
  inBinding : Bool
  mayRest : Bool
  maySpread : Bool

namespace Site

/-- Outside of all functions. -/
def script : Site :=
  { inFunction := false, inGenerator := false, inAsync := false
    inBinding := false, mayRest := false, maySpread := false }

/-- In the same function, as a phrase of its own. -/
def plain (site : Site) : Site :=
  { site with inBinding := false, mayRest := false, maySpread := false }

/-- Inside a function or the body of an arrow function. -/
def function (isAsync isGenerator : Bool) : Site :=
  { script with inFunction := true, inGenerator := isGenerator, inAsync := isAsync }

/-- As a pattern that names variables. -/
def binding (site : Site) : Site :=
  { site.plain with inBinding := true }

/-- As the parameters of a function. -/
def parameters (site : Site) : Site :=
  { site.binding with mayRest := true }

/-- As a list of arguments or elements. -/
def arguments (site : Site) : Site :=
  { site.plain with maySpread := true }

/-- Whether a phrase may stand at a site. -/
def Admits (site : Site) : {category : Category} → Node category → Prop
  | _, .expressionPattern (.memberExpression _ _) => site.inBinding = false
  | _, .expressionPattern (.computedMember _ _) => site.inBinding = false
  | _, .expressionPattern _ => False
  | _, .restPattern _ => site.mayRest = true
  | _, .restProperty _ => site.mayRest = true
  | _, .spreadExpression _ => site.maySpread = true
  | _, .assignmentExpression operator left _ => operator = .assign ∨ left.isSimplePattern = true
  | _, .updateExpression _ _ argument => argument.item.isSimpleTarget = true
  | _, .template chunks expressions => chunks.count = expressions.count + 1
  | _, .sequenceExpression expressions => 2 ≤ expressions.count
  | _, .variableStatement _ declarators => 1 ≤ declarators.count
  | _, .declarationHead _ declarators => 1 ≤ declarators.count
  | _, .tryStatement _ clause finalizer => clause ≠ .none ∨ finalizer ≠ .none
  | _, .forStatement head _ _ _ => head.holdsPattern = false
  | _, .forInStatement left _ _ => left.bindsOne = true
  | _, .forOfStatement left _ _ => left.bindsOne = true
  | _, .methodProperty _ kind value => kind ≠ .constructor ∧ kind.Suits value
  | _, .methodMember _ _ kind value => kind.Suits value
  | _, .returnStatement _ => site.inFunction = true
  | _, .yieldExpression _ _ => site.inGenerator = true
  | _, .awaitExpression _ => site.inAsync = true
  | _, _ => True

/-- Where the parts of a phrase stand. A rest element stands at the end of a list, and the keys and
default values in a pattern are phrases of their own. -/
def inside (site : Site) : {category : Category} → Node category → Category → Site
  | _, .some _, _ => site
  | _, .located _ _ _, _ => site
  | .list item, .cons _ tail, part =>
      if part = .list item then site
      else { site with mayRest := site.mayRest && tail.count = 0 }
  | _, .arrayPattern _, _ => { site with mayRest := true }
  | _, .objectPattern _, _ => { site with mayRest := true }
  | _, .restPattern _, _ => { site with mayRest := false }
  | _, .restProperty _, _ => { site with mayRest := false }
  | _, .defaultPattern _ _, .located .pattern => { site with mayRest := false }
  | _, .bindingProperty _ _ _, .located .pattern => { site with mayRest := false }
  | _, .declarator _ _, .located .pattern => site.binding
  | _, .handler _ _, .option (.located .pattern) => site.binding
  | _, .function _ isGenerator isAsync _ _, .list (.located .pattern) =>
      (function isAsync isGenerator).parameters
  | _, .function _ isGenerator isAsync _ _, .located .block => function isAsync isGenerator
  | _, .arrowFunction _ _ _, .list (.located .pattern) => site.parameters
  | _, .arrowFunction isAsync _ _, .arrowBody => function isAsync false
  | _, .fieldMember _ _ _, .option (.located .expression) => script
  | _, .arrayExpression _, _ => site.arguments
  | _, .callExpression _ _, .list (.located .expression) => site.arguments
  | _, .newExpression _ _, .list (.located .expression) => site.arguments
  | _, _, _ => site.plain

end Site

/-- What stands where in a grammatical tree. -/
def grammatical : Discipline Site where
  allows site node := site.Admits node
  inside site node part := site.inside node part

end Ecmascript

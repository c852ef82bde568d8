import Ecmascript.Proofs.Operators.Arrow
import Ecmascript.Proofs.Operators.Reading
import Ecmascript.Tree.Rebuild

/-!
# Formulas are parsed as they are read

Where a formula is read from tokens, the parser gives the same tree from every state that faces
these tokens, up to the positions in the tree, unless the phrases are nested too deep.
-/

set_option autoImplicit false

namespace Ecmascript.Parser

/-- A parser gives a tree, up to positions, and leaves some tokens, unless phrases are nested too
deep. -/
abbrev GivesNode (setup : Setup) {category : Category} (m : Parser (Node category)) (s : State)
    (node : Node category) (rest : List TokenKind) : Prop :=
  Gives IsTooDeep setup m s fun value after => value.erase = node.erase ∧ Faces setup rest after

/-- What is read is what the parser gives, for every bound on the steps. -/
def ParsesFrom (setup : Setup) (s : State) : {category : Category} → Reading category →
    Node category → List TokenKind → Prop
  | _, .expression, node, rest => ∀ steps, GivesNode setup (run steps .expression) s node rest
  | _, .moreExpressions, node, rest =>
      ∀ steps, GivesNode setup (run steps .moreExpressions) s node rest
  | _, .assignment, node, rest => ∀ steps, GivesNode setup (run steps .assignment) s node rest
  | _, .binary minimum, node, rest =>
      ∀ steps, GivesNode setup (run steps (.binary minimum)) s node rest
  | _, .binaryRest minimum left, node, rest => ∀ steps start left', left'.erase = left.erase →
      GivesNode setup (run steps (.binaryRest minimum start left')) s node rest
  | _, .power, node, rest => ∀ steps, GivesNode setup (run steps .power) s node rest
  | _, .unary, node, rest => ∀ steps, GivesNode setup (run steps .unary) s node rest
  | _, .leftHandSide, node, rest => ∀ steps, GivesNode setup (run steps .leftHandSide) s node rest
  | _, .head, node, rest => ∀ steps, GivesNode setup (leftmostOperand (run steps)) s node rest ∧
      GivesNode setup (newOperand (run steps)) s node rest
  | _, .memberRest object allowCall, node, rest => ∀ steps start object',
      object'.erase = object.erase →
        GivesNode setup (run steps (.memberRest start object' allowCall)) s node rest
  | _, .newExpression, node, rest => ∀ steps, GivesNode setup (run steps .newExpression) s node rest
  | _, .callArguments, node, rest =>
      ∀ steps, GivesNode setup (callArguments (run steps)) s node rest
  | _, .arguments, node, rest => ∀ steps, GivesNode setup (run steps .arguments) s node rest

/-- What is read from tokens is what the parser gives from every state that faces them. -/
def Parses (setup : Setup) {category : Category} (reading : Reading category)
    (kinds : List TokenKind) (node : Node category) (rest : List TokenKind) : Prop :=
  ∀ s, Faces setup kinds s → ParsesFrom setup s reading node rest

variable {setup : Setup} {s : State} {kind : TokenKind} {kinds kinds' kinds'' rest : List TokenKind}
  {start stop : Nat} {node left right : Located .expression}

theorem gives_finish {allowed : SyntaxError → Prop} {category : Category} {start : Nat}
    {item : Node category} {post : Located category → State → Prop}
    (holds : post (.located start s.previous.stop item) s) :
    Gives allowed setup (finish start item) s post :=
  holds

/-- A parser in parentheses or brackets, where the operator `in` may stand. -/
theorem gives_withIn {category : Category} {m : Parser (Node category)} {node : Node category}
    (faces : Faces setup kinds s) (gives : GivesNode setup m s node rest) :
    GivesNode setup (withIn true m) s node rest :=
  .withIn faces gives fun _ _ holds => holds.2.context

theorem gives_nested {category : Category} {m : Parser (Node category)} {node : Node category}
    (gives : GivesNode setup m { s with depth := s.depth + 1 } node rest) :
    GivesNode setup (nested m) s node rest := by
  refine .nested (gives.weaken fun value after holds => ?_)
  exact ⟨holds.1, holds.2.scope after.failed (after.depth - 1)⟩

/-! ## Sequences -/

theorem parses_single (assignment : Parses setup .assignment kinds node (kind :: rest))
    (ends : kind ≠ .punctuator .comma) :
    Parses setup .expression kinds node (kind :: rest) := by
  intro s faces steps
  cases steps with
  | zero => trivial
  | succ steps =>
      refine .step (rfl : position setup s = .ok s.current.start s) ?_
      refine (assignment s faces steps).bind fun first after holds => ?_
      obtain ⟨same, faces'⟩ := holds
      exact .atFalse faces' ends nofun (.ifFalse rfl (.pure ⟨same, faces'⟩))

theorem parses_sequence {others : Many (.located .expression)}
    (assignment : Parses setup .assignment kinds node (.punctuator .comma :: kinds'))
    (more : Parses setup .moreExpressions (.punctuator .comma :: kinds') others rest) :
    Parses setup .expression kinds
      (.located start stop (.sequenceExpression (.cons node others))) rest := by
  intro s faces steps
  cases steps with
  | zero => trivial
  | succ steps =>
      refine .step (rfl : position setup s = .ok s.current.start s) ?_
      refine (assignment s faces steps).bind fun first after holds => ?_
      obtain ⟨same, faces'⟩ := holds
      refine .atTrue faces' nofun (.ifTrue rfl ?_)
      refine (more after faces' steps).bind fun rest last holds => gives_finish ?_
      obtain ⟨same', faces''⟩ := holds
      refine ⟨?_, faces''⟩
      change Node.located 0 0 (.sequenceExpression (.cons first.erase rest.erase)) = _
      rw [same, same']
      rfl

theorem parses_noMore (ends : kind ≠ .punctuator .comma) :
    Parses setup .moreExpressions (kind :: rest) .nil (kind :: rest) := by
  intro s faces steps
  cases steps with
  | zero => trivial
  | succ steps => exact .skip faces ends (.ifFalse rfl (.pure ⟨rfl, faces⟩))

theorem parses_more {others : Many (.located .expression)}
    (assignment : Parses setup .assignment kinds node kinds')
    (more : Parses setup .moreExpressions kinds' others rest) :
    Parses setup .moreExpressions (.punctuator .comma :: kinds) (.cons node others) rest := by
  intro s faces steps
  cases steps with
  | zero => trivial
  | succ steps =>
      obtain ⟨next, kinds, rfl, _⟩ := faces.cons nofun
      refine .eat faces nofun fun after faces' => .ifTrue rfl ?_
      refine (assignment after faces' steps).bind fun first between holds => ?_
      obtain ⟨same, faces''⟩ := holds
      refine (more between faces'' steps).bind fun rest last holds => .pure ?_
      obtain ⟨same', faces'''⟩ := holds
      refine ⟨?_, faces'''⟩
      change Node.cons first.erase rest.erase = _
      rw [same, same']
      rfl

/-! ## Assignments and conditionals -/

/-- No destructuring target begins in front of a formula. -/
theorem gives_destructuringTarget? {allowed : SyntaxError → Prop} {self : Grammar}
    (faces : Faces setup (kind :: kinds) s) (starts : kind.startsOperand = true) :
    Gives allowed setup (destructuringTarget? self) s fun target after =>
      target = none ∧ Faces setup (kind :: kinds) after := by
  have undivided : kind ≠ .punctuator .slash := by
    rintro rfl
    cases starts
  refine .step (rfl : currentKind setup s = .ok s.current.kind s) ?_
  rw [faces.kind_eq undivided]
  split
  · cases starts
  · cases starts
  · exact .pure ⟨rfl, faces⟩

theorem not_slash_of_starts (starts : kind.startsOperand = true) : kind ≠ .punctuator .slash := by
  rintro rfl
  cases starts

theorem assignmentOperator_of_follows (follows : kind.followsOperand = true)
    (faces : Faces setup (kind :: rest) s) : s.current.kind.assignmentOperator? = none := by
  rcases faces.kind_or with same | ⟨_, raw, regex⟩
  · rw [same]
    cases kind with
    | punctuator mark =>
        revert follows
        clear faces same
        cases mark <;> intro follows <;> first | rfl | cases follows
    | _ => rfl
  · rw [regex]
    rfl

/-- An assignment in front of a formula is what the formula is as a conditional expression. -/
theorem parses_assignment (starts : ∃ first more, kinds = first :: more ∧
      first.startsOperand = true) (follows : kind.followsOperand = true)
    (inner : ∀ s steps, Faces setup kinds s →
      GivesNode setup (conditional (run steps)) s node (kind :: rest)) :
    Parses setup .assignment kinds node (kind :: rest) := by
  intro s faces steps
  obtain ⟨first, more, rfl, starts⟩ := starts
  cases steps with
  | zero => trivial
  | succ steps =>
      refine gives_nested ?_
      have faces' := faces.scope s.failed (s.depth + 1)
      generalize ({ s with failed := s.failed, depth := s.depth + 1 } : State) = s at faces'
      refine .step (rfl : atName "yield" setup s = .ok _ s) ?_
      refine .step (rfl : context setup s = .ok s.context s) ?_
      rw [faces'.context]
      refine .ifFalse rfl (.step (rfl : position setup s = .ok s.current.start s) ?_)
      refine (gives_arrowHead? steps faces' starts).bind fun head after holds => ?_
      obtain ⟨rfl, faces''⟩ := holds
      refine (gives_destructuringTarget? faces'' starts).bind fun target between holds => ?_
      obtain ⟨rfl, faces'''⟩ := holds
      refine (inner between steps faces''').bind fun left last holds => ?_
      obtain ⟨same, ends⟩ := holds
      refine .step (rfl : currentKind setup last = .ok last.current.kind last) ?_
      rw [assignmentOperator_of_follows follows ends]
      exact .pure ⟨same, ends⟩

theorem parses_test (starts : ∃ first more, kinds = first :: more ∧ first.startsOperand = true)
    (test : Parses setup (.binary 0) kinds node (kind :: rest))
    (follows : kind.followsOperand = true) (ends : kind ≠ .punctuator .question) :
    Parses setup .assignment kinds node (kind :: rest) := by
  refine parses_assignment starts follows fun s steps faces => ?_
  refine .step (rfl : position setup s = .ok s.current.start s) ?_
  refine (test s faces steps).bind fun test after holds => ?_
  obtain ⟨same, faces'⟩ := holds
  exact .skip faces' ends (.ifFalse rfl (.pure ⟨same, faces'⟩))

theorem parses_conditional {test consequent alternate : Located .expression}
    (starts : ∃ first more, kinds = first :: more ∧ first.startsOperand = true)
    (first : Parses setup (.binary 0) kinds test (.punctuator .question :: kinds'))
    (second : Parses setup .assignment kinds' consequent (.punctuator .colon :: kinds''))
    (third : Parses setup .assignment kinds'' alternate (kind :: rest))
    (follows : kind.followsOperand = true) :
    Parses setup .assignment kinds
      (.located start stop (.conditionalExpression test consequent alternate)) (kind :: rest) := by
  refine parses_assignment starts follows fun s steps faces => ?_
  refine .step (rfl : position setup s = .ok s.current.start s) ?_
  refine (first s faces steps).bind fun test' after holds => ?_
  obtain ⟨same, faces⟩ := holds
  obtain ⟨next, kinds', rfl, _⟩ := faces.cons nofun
  refine .eat faces nofun fun after faces => .ifTrue rfl ?_
  refine (gives_withIn faces (second after faces steps)).bind fun consequent' after holds => ?_
  obtain ⟨same', faces⟩ := holds
  obtain ⟨next, kinds'', rfl, _⟩ := faces.cons nofun
  refine .expect faces nofun fun after faces => ?_
  refine (third after faces steps).bind fun alternate' after holds => gives_finish ?_
  obtain ⟨same'', faces⟩ := holds
  refine ⟨?_, faces⟩
  change Node.located 0 0
    (.conditionalExpression test'.erase consequent'.erase alternate'.erase) = _
  rw [same, same', same'']
  rfl

/-! ## Operators -/

theorem parses_climb {minimum : Nat} (power : Parses setup .power kinds left kinds')
    (more : Parses setup (.binaryRest minimum left) kinds' node rest) :
    Parses setup (.binary minimum) kinds node rest := by
  intro s faces steps
  cases steps with
  | zero => trivial
  | succ steps =>
      refine .step (rfl : position setup s = .ok s.current.start s) ?_
      refine (power s faces steps).bind fun left after holds => ?_
      obtain ⟨same, faces'⟩ := holds
      exact more after faces' steps _ left same

theorem not_regex_of_follows (follows : kind.followsOperand = true) (raw : String) :
    kind ≠ .regex raw := by
  rintro rfl
  cases follows

theorem parses_loose {minimum : Nat} (follows : kind.followsOperand = true)
    (ends : kind.precedence ≤ minimum) :
    Parses setup (.binaryRest minimum left) (kind :: rest) left (kind :: rest) := by
  intro s faces steps start left' same
  cases steps with
  | zero => trivial
  | succ steps =>
      obtain ⟨after, divides, faces', here⟩ := faces.divide (not_regex_of_follows follows)
      refine .step divides ?_
      refine .step (rfl : currentKind setup after = .ok after.current.kind after) ?_
      refine .step (rfl : context setup after = .ok after.context after) ?_
      dsimp only
      rw [here, decide_eq_true ends, Bool.true_or]
      exact .ifTrue rfl (.pure ⟨same, faces'⟩)

theorem combine_erase {operator : InfixOperator} {left left' right right' : Located .expression}
    (first : left'.erase = left.erase) (second : right'.erase = right.erase) :
    (operator.combine left' right').erase = (operator.combine left right).erase := by
  cases operator with
  | binary operator =>
      change Node.binaryExpression operator left'.erase right'.erase = _
      rw [first, second]
      rfl
  | logical operator =>
      change Node.logicalExpression operator left'.erase right'.erase = _
      rw [first, second]
      rfl

theorem parses_tight {minimum : Nat} {operator : InfixOperator}
    (goes : minimum < kind.precedence) (named : kind.infixOperator? = some operator)
    (operand : Parses setup (.binary kind.precedence) kinds right kinds')
    (more : Parses setup (.binaryRest minimum (.located start stop (operator.combine left right)))
      kinds' node rest) :
    Parses setup (.binaryRest minimum left) (kind :: kinds) node rest := by
  intro s faces steps begin left' same
  cases steps with
  | zero => trivial
  | succ steps =>
      have unread (raw : String) : kind ≠ .regex raw := by
        rintro rfl
        cases named
      have goes_on : kind ≠ .endOfInput := by
        rintro rfl
        cases named
      obtain ⟨after, divides, faces, here⟩ := faces.divide unread
      refine .step divides ?_
      refine .step (rfl : currentKind setup after = .ok after.current.kind after) ?_
      refine .step (rfl : context setup after = .ok after.context after) ?_
      dsimp only
      rw [here, faces.context, decide_eq_false (Nat.not_le.2 goes), named]
      refine .ifFalse rfl ?_
      obtain ⟨next, kinds, rfl, _⟩ := faces.cons goes_on
      refine .advance faces here fun after faces => ?_
      refine (operand after faces steps).bind fun right' after holds => ?_
      obtain ⟨same', faces⟩ := holds
      refine .step (rfl : finish begin _ setup after = .ok _ after) ?_
      refine more after faces steps _ _ ?_
      change Node.located 0 0 (operator.combine left' right').erase = _
      rw [combine_erase same same']
      rfl

theorem ne_power_of_ne (faces : Faces setup (kind :: rest) s)
    (ends : kind ≠ .punctuator .power) : s.current.kind ≠ .punctuator .power :=
  faces.kind_ne ends nofun

theorem parses_base (unary : Parses setup .unary kinds node (kind :: rest))
    (ends : kind ≠ .punctuator .power) : Parses setup .power kinds node (kind :: rest) := by
  intro s faces steps
  cases steps with
  | zero => trivial
  | succ steps =>
      refine .step (rfl : position setup s = .ok s.current.start s) ?_
      refine .step (rfl : atName "await" setup s = .ok _ s) ?_
      refine .step (rfl : currentKind setup s = .ok s.current.kind s) ?_
      refine .step (rfl : context setup s = .ok s.context s) ?_
      refine (unary s faces steps).bind fun left after holds => ?_
      refine .step (rfl : current setup after = .ok after.current after) ?_
      rw [if_neg (ne_power_of_ne holds.2 ends)]
      exact .pure holds

/-- An operand that begins with no operator. -/
def BeginsPlain (kinds : List TokenKind) : Prop :=
  ∃ first more, kinds = first :: more ∧ first.startsOperand = true ∧ first.unaryOperator? = none

theorem updateOperator_of_starts (starts : kind.startsOperand = true) :
    kind.updateOperator? = none := by
  cases kind with
  | punctuator mark =>
      revert starts
      cases mark <;> intro starts <;> first | rfl | cases starts
  | _ => rfl

theorem updateOperator_of_follows (follows : kind.followsOperand = true)
    (faces : Faces setup (kind :: rest) s) : s.current.kind.updateOperator? = none := by
  rcases faces.kind_or with same | ⟨_, raw, regex⟩
  · rw [same]
    cases kind with
    | punctuator mark =>
        revert follows
        clear faces same
        cases mark <;> intro follows <;> first | rfl | cases follows
    | _ => rfl
  · rw [regex]
    rfl

theorem parses_operand (plain : BeginsPlain kinds)
    (operand : Parses setup .leftHandSide kinds node (kind :: rest))
    (follows : kind.followsOperand = true) :
    Parses setup .unary kinds node (kind :: rest) := by
  intro s faces steps
  obtain ⟨first, more, rfl, starts, single⟩ := plain
  cases steps with
  | zero => trivial
  | succ steps =>
      refine .step (rfl : position setup s = .ok s.current.start s) ?_
      refine .step (rfl : currentKind setup s = .ok s.current.kind s) ?_
      rw [faces.kind_eq (not_slash_of_starts starts), single, updateOperator_of_starts starts]
      refine .step (rfl : context setup s = .ok s.context s) ?_
      rw [faces.context]
      refine .ifFalse rfl (.step (rfl : position setup s = .ok s.current.start s) ?_)
      refine (operand s faces steps).bind fun argument after holds => ?_
      refine .step (rfl : current setup after = .ok after.current after) ?_
      rw [updateOperator_of_follows follows holds.2]
      exact .pure holds

theorem parses_power (plain : BeginsPlain kinds)
    (base : Parses setup .leftHandSide kinds left (.punctuator .power :: kinds'))
    (exponent : Parses setup .power kinds' right rest) :
    Parses setup .power kinds (.located start stop (.binaryExpression .power left right)) rest := by
  intro s faces steps
  have unary := parses_operand plain base rfl
  obtain ⟨first, more, rfl, starts, single⟩ := plain
  cases steps with
  | zero => trivial
  | succ steps =>
      refine .step (rfl : position setup s = .ok s.current.start s) ?_
      refine .step (rfl : atName "await" setup s = .ok _ s) ?_
      refine .step (rfl : currentKind setup s = .ok s.current.kind s) ?_
      refine .step (rfl : context setup s = .ok s.context s) ?_
      rw [faces.kind_eq (not_slash_of_starts starts), single, faces.context]
      refine (unary s faces steps).bind fun left' after holds => ?_
      obtain ⟨same, faces⟩ := holds
      refine .step (rfl : current setup after = .ok after.current after) ?_
      have here : after.current.kind = .punctuator .power := faces.kind_eq nofun
      rw [if_pos here]
      refine .ifFalse rfl ?_
      obtain ⟨next, kinds', rfl, _⟩ := faces.cons nofun
      refine .advance faces here fun after faces => ?_
      refine (exponent after faces steps).bind fun right' after holds => gives_finish ?_
      obtain ⟨same', faces⟩ := holds
      refine ⟨?_, faces⟩
      change Node.located 0 0 (.binaryExpression .power left'.erase right'.erase) = _
      rw [same, same']
      rfl

theorem parses_unary {operator : UnaryOperator} (named : kind.unaryOperator? = some operator)
    (argument : Parses setup .unary kinds node rest) :
    Parses setup .unary (kind :: kinds) (.located start stop (.unaryExpression operator node))
      rest := by
  intro s faces steps
  have undivided : kind ≠ .punctuator .slash := by
    rintro rfl
    cases named
  have goes_on : kind ≠ .endOfInput := by
    rintro rfl
    cases named
  cases steps with
  | zero => trivial
  | succ steps =>
      refine .step (rfl : position setup s = .ok s.current.start s) ?_
      refine .step (rfl : currentKind setup s = .ok s.current.kind s) ?_
      have here := faces.kind_eq undivided
      rw [here, named]
      obtain ⟨next, kinds, rfl, _⟩ := faces.cons goes_on
      refine .advance faces here fun after faces => ?_
      have deeper := argument _ (faces.scope after.failed (after.depth + 1)) steps
      refine (gives_nested deeper).bind fun argument' after holds => gives_finish ?_
      obtain ⟨same, faces⟩ := holds
      refine ⟨?_, faces⟩
      change Node.located 0 0 (.unaryExpression operator argument'.erase) = _
      rw [same]
      rfl

/-! ## Operands -/

theorem parses_leftHandSide {operand : Located .expression}
    (head : Parses setup .head kinds operand kinds')
    (more : Parses setup (.memberRest operand true) kinds' node rest) :
    Parses setup .leftHandSide kinds node rest := by
  intro s faces steps
  cases steps with
  | zero => trivial
  | succ steps =>
      refine .step (rfl : position setup s = .ok s.current.start s) ?_
      refine (head s faces steps).1.bind fun operand' after holds => ?_
      obtain ⟨same, faces'⟩ := holds
      exact more after faces' steps _ operand' same

/-- An operand that does not begin with `new`. -/
theorem gives_head {steps : Nat} (faces : Faces setup (kind :: kinds) s)
    (other : kind ≠ .keyword .newWord)
    (gives : GivesNode setup (primary (run steps)) s node rest) :
    GivesNode setup (leftmostOperand (run steps)) s node rest ∧
      GivesNode setup (newOperand (run steps)) s node rest :=
  ⟨.atFalse faces other nofun (.ifFalse rfl gives), .atFalse faces other nofun (.ifFalse rfl gives)⟩

/-- At the beginning of an operand a slash has been read already. -/
theorem slashAsRegex_of_starts (faces : Faces setup (kind :: kinds) s)
    (starts : kind.startsOperand = true) : slashAsRegex setup s = .ok () s := by
  have here := faces.kind_eq (not_slash_of_starts starts)
  unfold slashAsRegex
  split
  · rename_i slash
    rw [here] at slash
    subst slash
    cases starts
  · rename_i slash
    rw [here] at slash
    subst slash
    cases starts
  · rfl

theorem gives_plainExpression {item : Node .expression} (faces : Faces setup (kind :: kinds) s)
    (starts : kind.startsOperand = true) (named : plainExpression? kind = some item) :
    GivesNode setup plainExpression s (.located start stop item) kinds := by
  have here := faces.kind_eq (not_slash_of_starts starts)
  have goes_on : kind ≠ .endOfInput := by
    rintro rfl
    cases starts
  refine .step (rfl : position setup s = .ok s.current.start s) ?_
  refine .step (rfl : currentKind setup s = .ok s.current.kind s) ?_
  rw [here, named]
  obtain ⟨next, kinds, rfl, _⟩ := faces.cons goes_on
  exact .advance faces here fun after faces' => gives_finish ⟨rfl, faces'⟩

/-- A word `async` in a formula is a name. -/
theorem gives_asyncOperand {name : String} {steps : Nat} {item : Node .expression}
    (faces : Faces setup (.identifier name :: kinds) s)
    (named : plainExpression? (.identifier name) = some item) :
    GivesNode setup (asyncOperand (run steps)) s (.located start stop item) kinds := by
  obtain ⟨next, more, rfl, adjacent⟩ := faces.cons nofun
  obtain ⟨token, peeks, same⟩ := faces.peek (faces.kind_eq nofun)
  have noFunction : token.kind ≠ .keyword .functionWord := by
    rcases same with same | ⟨_, raw, regex⟩
    · rw [same]
      rintro rfl
      exact absurd (adjacent.follows_of_ends rfl rfl) nofun
    · rw [regex]
      nofun
  refine .step (rfl : position setup s = .ok s.current.start s) (.step peeks ?_)
  rw [decide_eq_false noFunction, Bool.false_and]
  exact .ifFalse rfl (gives_plainExpression faces rfl named)

theorem parses_plain {item : Node .expression} (starts : kind.startsOperand = true)
    (named : plainExpression? kind = some item) :
    Parses setup .head (kind :: rest) (.located start stop item) rest := by
  intro s faces steps
  have other : kind ≠ .keyword .newWord := by
    rintro rfl
    cases named
  refine gives_head faces other ?_
  refine .step (slashAsRegex_of_starts faces starts) ?_
  refine .step (rfl : position setup s = .ok s.current.start s) ?_
  refine .step (rfl : currentKind setup s = .ok s.current.kind s) ?_
  rw [faces.kind_eq (not_slash_of_starts starts)]
  split
  · cases named
  · cases named
  · cases named
  · cases named
  · cases named
  · cases named
  · cases named
  · split
    · exact gives_asyncOperand faces named
    · exact gives_plainExpression faces starts named
  · exact gives_plainExpression faces starts named

theorem parses_parens
    (expression : Parses setup .expression kinds node (.punctuator .rightParen :: rest)) :
    Parses setup .head (.punctuator .leftParen :: kinds) node rest := by
  intro s faces steps
  refine gives_head faces nofun ?_
  refine .step (slashAsRegex_of_starts faces rfl) ?_
  refine .step (rfl : position setup s = .ok s.current.start s) ?_
  refine .step (rfl : currentKind setup s = .ok s.current.kind s) ?_
  have here := faces.kind_eq nofun
  rw [here]
  obtain ⟨next, kinds, rfl, _⟩ := faces.cons nofun
  refine .advance faces here fun after faces => ?_
  refine (gives_withIn faces (expression after faces steps)).bind fun inner after holds => ?_
  obtain ⟨same, faces⟩ := holds
  obtain ⟨next, rest, rfl, _⟩ := faces.cons nofun
  exact .expect faces nofun fun after faces => .pure ⟨same, faces⟩

theorem parses_newHead (begins : ∃ more, kinds = .keyword .newWord :: more)
    (new : Parses setup .newExpression kinds node rest) : Parses setup .head kinds node rest := by
  intro s faces steps
  obtain ⟨more, rfl⟩ := begins
  have deeper := new _ (faces.scope s.failed (s.depth + 1)) steps
  exact ⟨.atTrue faces nofun (.ifTrue rfl (new s faces steps)),
    .atTrue faces nofun (.ifTrue rfl (gives_nested deeper))⟩

theorem parses_newExpression {operand callee : Located .expression}
    {arguments : Many (.located .expression)}
    (head : Parses setup .head kinds operand kinds')
    (more : Parses setup (.memberRest operand false) kinds' callee
      (.punctuator .leftParen :: kinds''))
    (last : Parses setup .callArguments (.punctuator .leftParen :: kinds'') arguments rest) :
    Parses setup .newExpression (.keyword .newWord :: kinds)
      (.located start stop (.newExpression callee arguments)) rest := by
  intro s faces steps
  cases steps with
  | zero => trivial
  | succ steps =>
      refine .step (rfl : position setup s = .ok s.current.start s) ?_
      obtain ⟨next, kinds, rfl, _⟩ := faces.cons nofun
      refine .expectWord faces fun after faces => ?_
      refine .step (rfl : position setup after = .ok after.current.start after) ?_
      refine (head after faces steps).2.bind fun operand' after holds => ?_
      obtain ⟨same, faces⟩ := holds
      refine (more after faces steps _ operand' same).bind fun callee' after holds => ?_
      obtain ⟨same, faces⟩ := holds
      have given : GivesNode setup (newArguments (run steps)) after arguments rest :=
        .atTrue faces nofun (.ifTrue rfl (last after faces steps))
      refine given.bind fun arguments' after holds => gives_finish ?_
      obtain ⟨same', faces⟩ := holds
      refine ⟨?_, faces⟩
      change Node.located 0 0 (.newExpression callee'.erase arguments'.erase) = _
      rw [same, same']
      rfl

/-! ## Members and calls -/

theorem parses_noMember {allowCall : Bool} (follows : kind.followsOperand = true)
    (undotted : kind ≠ .punctuator .dot) (unbracketed : kind ≠ .punctuator .leftBracket)
    (uncalled : kind = .punctuator .leftParen → allowCall = false) :
    Parses setup (.memberRest node allowCall) (kind :: rest) node (kind :: rest) := by
  intro s faces steps start object' same
  cases steps with
  | zero => trivial
  | succ steps =>
      have untemplated (part : TemplatePart) (raw : String) : kind ≠ .template part raw := by
        rintro rfl
        cases follows
      refine .step (rfl : currentKind setup s = .ok s.current.kind s) ?_
      split
      · exact absurd ‹_› (faces.kind_ne undotted nofun)
      · exact absurd ‹_› (faces.kind_ne unbracketed nofun)
      · rename_i paren
        rcases faces.kind_or with here | ⟨_, raw, regex⟩
        · exact .ifFalse (uncalled (here.symm.trans paren)) (.pure ⟨same, faces⟩)
        · rw [regex] at paren
          cases paren
      · exact absurd ‹_› (faces.kind_ne (untemplated _ _) nofun)
      · exact absurd ‹_› (faces.kind_ne (untemplated _ _) nofun)
      · exact .pure ⟨same, faces⟩

theorem gives_propertyName {name : String} (faces : Faces setup (kind :: kinds) s)
    (named : propertyName? kind = some name) :
    GivesNode setup propertyName s (.located start stop (.word name)) kinds := by
  have undivided : kind ≠ .punctuator .slash := by
    rintro rfl
    cases named
  have goes_on : kind ≠ .endOfInput := by
    rintro rfl
    cases named
  have here := faces.kind_eq undivided
  refine .step (rfl : current setup s = .ok s.current s) ?_
  rw [here, named]
  obtain ⟨next, kinds, rfl, _⟩ := faces.cons goes_on
  exact .advance faces here fun after faces' => .pure ⟨rfl, faces'⟩

theorem parses_member {name : String} {start' stop' : Nat} {object : Located .expression}
    {allowCall : Bool} (named : propertyName? kind = some name)
    (more : Parses setup (.memberRest (.located start stop
      (.memberExpression object (.located start' stop' (.word name)))) allowCall) kinds node rest) :
    Parses setup (.memberRest object allowCall) (.punctuator .dot :: kind :: kinds) node rest := by
  intro s faces steps begin object' same
  cases steps with
  | zero => trivial
  | succ steps =>
      have here := faces.kind_eq nofun
      refine .step (rfl : currentKind setup s = .ok s.current.kind s) ?_
      rw [here]
      refine .advance faces here fun after faces => ?_
      have property : GivesNode setup propertyName after
          (.located start' stop' (.word name)) kinds :=
        gives_propertyName faces named
      refine property.bind fun property' after holds => ?_
      obtain ⟨same', faces⟩ := holds
      refine .step (rfl : finish begin _ setup after = .ok _ after) ?_
      refine more after faces steps _ _ ?_
      change Node.located 0 0 (.memberExpression object'.erase property'.erase) = _
      rw [same, same']
      rfl

theorem parses_computed {object property : Located .expression} {allowCall : Bool}
    (expression : Parses setup .expression kinds property (.punctuator .rightBracket :: kinds'))
    (more : Parses setup (.memberRest (.located start stop (.computedMember object property))
      allowCall) kinds' node rest) :
    Parses setup (.memberRest object allowCall) (.punctuator .leftBracket :: kinds) node rest := by
  intro s faces steps begin object' same
  cases steps with
  | zero => trivial
  | succ steps =>
      have here := faces.kind_eq nofun
      refine .step (rfl : currentKind setup s = .ok s.current.kind s) ?_
      rw [here]
      obtain ⟨next, kinds, rfl, _⟩ := faces.cons nofun
      refine .advance faces here fun after faces => ?_
      have inner := gives_withIn faces (expression after faces steps)
      refine inner.bind fun property' after holds => ?_
      obtain ⟨same', faces⟩ := holds
      obtain ⟨next, kinds', rfl, _⟩ := faces.cons nofun
      refine .expect faces nofun fun after faces => ?_
      refine .step (rfl : finish begin _ setup after = .ok _ after) ?_
      refine more after faces steps _ _ ?_
      change Node.located 0 0 (.computedMember object'.erase property'.erase) = _
      rw [same, same']
      rfl

theorem parses_call {object : Located .expression} {arguments : Many (.located .expression)}
    (given : Parses setup .callArguments (.punctuator .leftParen :: kinds) arguments kinds')
    (more : Parses setup (.memberRest (.located start stop (.callExpression object arguments)) true)
      kinds' node rest) :
    Parses setup (.memberRest object true) (.punctuator .leftParen :: kinds) node rest := by
  intro s faces steps begin object' same
  cases steps with
  | zero => trivial
  | succ steps =>
      refine .step (rfl : currentKind setup s = .ok s.current.kind s) ?_
      rw [faces.kind_eq nofun]
      refine .ifTrue rfl ((given s faces steps).bind fun arguments' after holds => ?_)
      obtain ⟨same', faces⟩ := holds
      refine .step (rfl : finish begin _ setup after = .ok _ after) ?_
      refine more after faces steps _ _ ?_
      change Node.located 0 0 (.callExpression object'.erase arguments'.erase) = _
      rw [same, same']
      rfl

/-! ## Arguments -/

theorem parses_callArguments {arguments : Many (.located .expression)}
    (inner : Parses setup .arguments kinds arguments (.punctuator .rightParen :: rest)) :
    Parses setup .callArguments (.punctuator .leftParen :: kinds) arguments rest := by
  intro s faces steps
  obtain ⟨next, kinds, rfl, _⟩ := faces.cons nofun
  refine .expect faces nofun fun after faces => ?_
  refine (gives_withIn faces (inner after faces steps)).bind fun arguments' after holds => ?_
  obtain ⟨same, faces⟩ := holds
  obtain ⟨next, rest, rfl, _⟩ := faces.cons nofun
  exact .expect faces nofun fun after faces => .pure ⟨same, faces⟩

theorem parses_noArguments :
    Parses setup .arguments (.punctuator .rightParen :: rest) .nil
      (.punctuator .rightParen :: rest) := by
  intro s faces steps
  cases steps with
  | zero => trivial
  | succ steps => exact .atTrue faces nofun (.ifTrue rfl (.pure ⟨rfl, faces⟩))

/-- An argument, and what separates it from the others or from the parenthesis behind them. -/
theorem gives_argument {steps : Nat} {arguments : Many (.located .expression)}
    (starts : ∃ first more, kinds = first :: more ∧ first.startsOperand = true)
    (faces : Faces setup kinds s)
    (assignment : Parses setup .assignment kinds node (kind :: kinds'))
    (separates : ∀ after, Faces setup (kind :: kinds') after →
      Gives IsTooDeep setup (separator .rightParen) after fun _ last => Faces setup kinds'' last)
    (others : Parses setup .arguments kinds'' arguments rest) :
    GivesNode setup (argumentList (run steps)) s (.cons node arguments) rest := by
  obtain ⟨first, more, rfl, starts⟩ := starts
  have other (mark : Punctuator) (unlike : (TokenKind.punctuator mark).startsOperand = false) :
      first ≠ .punctuator mark := by
    rintro rfl
    exact absurd (unlike.symm.trans starts) nofun
  refine .atFalse faces (other .rightParen rfl) nofun (.ifFalse rfl ?_)
  have argument : GivesNode setup (spreadOrAssignment (run steps)) s node (kind :: kinds') :=
    .atFalse faces (other .ellipsis rfl) nofun (.ifFalse rfl (assignment s faces steps))
  refine argument.bind fun argument' after holds => ?_
  obtain ⟨same, faces⟩ := holds
  refine (separates after faces).bind fun _ after faces => ?_
  refine (others after faces steps).bind fun arguments' after holds => .pure ?_
  obtain ⟨same', faces⟩ := holds
  refine ⟨?_, faces⟩
  change Node.cons argument'.erase arguments'.erase = _
  rw [same, same']
  rfl

theorem parses_lastArgument
    (starts : ∃ first more, kinds = first :: more ∧ first.startsOperand = true)
    (assignment : Parses setup .assignment kinds node (.punctuator .rightParen :: rest)) :
    Parses setup .arguments kinds (.cons node .nil) (.punctuator .rightParen :: rest) := by
  intro s faces steps
  cases steps with
  | zero => trivial
  | succ steps =>
      refine gives_argument starts faces assignment (fun after faces => ?_) parses_noArguments
      exact .atTrue faces nofun (.ifTrue rfl (.pure faces))

theorem parses_argument {arguments : Many (.located .expression)}
    (starts : ∃ first more, kinds = first :: more ∧ first.startsOperand = true)
    (assignment : Parses setup .assignment kinds node (.punctuator .comma :: kinds'))
    (others : Parses setup .arguments kinds' arguments rest) :
    Parses setup .arguments kinds (.cons node arguments) rest := by
  intro s faces steps
  cases steps with
  | zero => trivial
  | succ steps =>
      refine gives_argument starts faces assignment (fun after faces => ?_) others
      refine .atFalse faces nofun nofun (.ifFalse rfl ?_)
      obtain ⟨next, kinds', rfl, _⟩ := faces.cons nofun
      exact .expectMark faces nofun

/-! ## Every rule -/

/-- The parser gives what is read. -/
theorem parses_of_reads {category : Category} {reading : Reading category}
    {kinds rest : List TokenKind} {node : Node category} (reads : Reads reading kinds node rest) :
    Parses setup reading kinds node rest := by
  induction reads with
  | single _ ends ih => exact parses_single ih ends
  | sequence _ _ ih more => exact parses_sequence ih more
  | noMore ends => exact parses_noMore ends
  | more _ _ ih more => exact parses_more ih more
  | test reads follows ends ih => exact parses_test reads.begins ih follows ends
  | conditional reads _ _ follows first second third =>
      exact parses_conditional reads.begins first second third follows
  | climb _ _ ih more => exact parses_climb ih more
  | loose follows ends => exact parses_loose follows ends
  | tight goes named _ _ ih more => exact parses_tight goes named ih more
  | base _ ends ih => exact parses_base ih ends
  | power reads _ ih more => exact parses_power reads.begins ih more
  | unary named _ ih => exact parses_unary named ih
  | operand reads follows ih => exact parses_operand reads.begins ih follows
  | leftHandSide _ _ ih more => exact parses_leftHandSide ih more
  | plain starts named => exact parses_plain starts named
  | parens _ ih => exact parses_parens ih
  | newHead reads ih =>
      obtain ⟨first, more, rfl, rfl⟩ := reads.begins
      exact parses_newHead ⟨more, rfl⟩ ih
  | newExpression _ _ last head more arguments =>
      obtain ⟨first, rest, rfl, rfl⟩ := last.begins
      exact parses_newExpression head more arguments
  | noMember follows undotted unbracketed uncalled =>
      exact parses_noMember follows undotted unbracketed uncalled
  | member named _ ih => exact parses_member named ih
  | computed _ _ ih more => exact parses_computed ih more
  | call _ _ ih more => exact parses_call ih more
  | callArguments _ ih => exact parses_callArguments ih
  | noArguments => exact parses_noArguments
  | lastArgument reads ih => exact parses_lastArgument reads.begins ih
  | argument reads _ ih others => exact parses_argument reads.begins ih others

end Ecmascript.Parser

import Ecmascript.Printer.Tree

/-!
# What printing leaves as it was

Printing only adds to the output, and gives back the indentation that it found. Whether the operator
`in` needs parentheses is given back by parentheses and by the holes of templates, but a loop with
three parts forgets it behind the first part of its head, also where the loop itself stands in the
first part of another head. So it is exactly the loops outside of parentheses and holes that leave
an operator behind them without the parentheses it needs.
-/

set_option autoImplicit false

namespace Ecmascript

/-- Output grew, in the same style and with the same indentation. That `in` needs parentheses is
still known, unless it was forgotten. -/
structure Writer.Grows (forgotten : Bool) (writer after : Writer) : Prop where
  written : writer.written <:+ after.written
  style : after.style = writer.style
  indent : after.indent = writer.indent
  noIn : after.noIn = (writer.noIn && !forgotten)

namespace Print

/-- A piece of printing makes the output grow, and forgets that `in` needs parentheses, or does
not. -/
def Frames (forgets : Bool) (piece : Print) : Prop :=
  ∀ writer, Writer.Grows forgets writer (piece writer)

namespace Frames

variable {forgets forgets' : Bool} {piece piece' : Print} {pieces : List Print}

/-! ## Tokens and blanks -/

theorem nothing : Frames false nothing := fun _ =>
  ⟨List.suffix_rfl, rfl, rfl, (Bool.and_true _).symm⟩

theorem push (text : Text) : Frames false (·.push text) := fun _ =>
  ⟨List.suffix_append _ _, rfl, rfl, (Bool.and_true _).symm⟩

theorem of_eq (frames : Frames forgets piece) (same : forgets = forgets') : Frames forgets' piece :=
  same ▸ frames

theorem comp (first : Frames forgets piece) (second : Frames forgets' piece') :
    Frames (forgets || forgets') fun writer => piece' (piece writer) := by
  intro writer
  have front := first writer
  have back := second (piece writer)
  refine ⟨front.written.trans back.written, back.style.trans front.style,
    back.indent.trans front.indent, ?_⟩
  rw [back.noIn, front.noIn, Bool.and_assoc, Bool.not_or]

theorem ite {condition : Writer → Prop} [DecidablePred condition] (yes : Frames forgets piece)
    (no : Frames forgets piece') :
    Frames forgets fun writer => if condition writer then piece writer else piece' writer := by
  intro writer
  dsimp only
  split
  · exact yes writer
  · exact no writer

theorem raw (text : String) : Frames false (raw text) :=
  push text.toList

theorem token (text : String) : Frames false (token text) := by
  unfold Print.token
  split
  · exact nothing
  · exact (ite (push [' ']) nothing).comp (push _)

theorem regex (text : String) : Frames false (regex text) := fun writer =>
  have frames := token text writer
  ⟨frames.written, frames.style, frames.indent, frames.noIn⟩

theorem space : Frames false space :=
  ite (push [' ']) nothing

theorem newline : Frames false newline := by
  intro writer
  unfold Print.newline
  split
  · exact push _ writer
  · exact nothing writer

/-! ## Pieces in a row -/

theorem last (only : Frames forgets piece) : Frames forgets (all [piece]) :=
  only

theorem cons (first : Frames forgets piece) (rest : Frames forgets' (all pieces)) :
    Frames (forgets || forgets') (all (piece :: pieces)) :=
  first.comp rest

theorem lead (first : Frames false piece) (rest : Frames forgets (all pieces)) :
    Frames forgets (all (piece :: pieces)) :=
  first.cons rest

theorem trail (first : Frames forgets piece) (rest : Frames false (all pieces)) :
    Frames forgets (all (piece :: pieces)) :=
  Bool.or_false forgets ▸ first.cons rest

theorem all_raw (texts : List String) : Frames false (all (texts.map Print.raw)) := by
  induction texts with
  | nil => exact nothing
  | cons text texts ih => exact .lead (raw text) ih

theorem comma : Frames false comma :=
  .lead (raw ",") (last space)

theorem operator (text : String) : Frames false (operator text) :=
  .lead space <| .lead (token text) <| last space

theorem when (condition : Bool) (frames : Frames false piece) :
    Frames false (when condition piece) := by
  cases condition with
  | false => exact nothing
  | true => exact frames

/-! ## Pieces that change the state -/

theorem allowingIn (frames : Frames forgets piece) : Frames false (allowingIn piece) :=
  fun writer =>
  have inner := frames { writer with noIn := false }
  ⟨inner.written, inner.style, inner.indent, (Bool.and_true _).symm⟩

theorem parenthesized (frames : Frames forgets piece) : Frames false (parenthesized piece) :=
  allowingIn (.lead (token "(") <| .trail frames <| last (token ")"))

theorem loopHead (frames : Frames forgets piece) : Frames true (loopHead piece) := fun writer =>
  have inner := frames { writer with noIn := true }
  ⟨inner.written, inner.style, inner.indent, (Bool.and_false _).symm⟩

/-- One level further in, no piece goes back further than it came. -/
theorem indented (frames : Frames forgets piece) : Frames forgets (indented piece) := fun writer =>
  have inner := frames { writer with indent := writer.indent + 1 }
  ⟨inner.written, inner.style, Nat.sub_eq_of_eq_add inner.indent, inner.noIn⟩

/-- A piece that may have parentheses forgets nothing where it has them. -/
theorem parensIf {condition : Bool} (closed : Frames forgets' piece)
    (bare : Frames forgets piece') : Frames (!condition && forgets)
      (if condition = true then Print.parenthesized piece else piece') := by
  cases condition with
  | true => exact closed.parenthesized
  | false => exact bare

/-! ## Parts of phrases -/

theorem braces {isEmpty : Bool} (frames : Frames forgets piece)
    (empty : isEmpty = true → forgets = false) : Frames forgets (braces isEmpty piece) := by
  unfold Print.braces
  split
  · next isEmpty =>
    rw [empty isEmpty]
    exact .lead (token _) <| last (token _)
  · exact .lead (token _) <| .trail (indented (.lead newline (last frames))) <|
      .lead newline <| last (token _)

theorem ifAny {isEmpty : Bool} (frames : Frames forgets piece)
    (empty : isEmpty = true → forgets = false) :
    Frames forgets (Print.when (!isEmpty) piece) := by
  cases isEmpty with
  | true => exact nothing.of_eq (empty rfl).symm
  | false => exact frames

/-- The first part of the head of a loop makes the loop forget, if it is there. -/
theorem firstPart {isAbsent : Bool} (frames : Frames forgets piece) :
    Frames (!isAbsent) (Print.when (!isAbsent) (Print.loopHead piece)) := by
  cases isAbsent with
  | true => exact nothing
  | false => exact loopHead frames

theorem inlineBraces {isEmpty : Bool} (frames : Frames forgets piece)
    (empty : isEmpty = true → forgets = false) : Frames forgets (inlineBraces isEmpty piece) := by
  unfold Print.inlineBraces
  split
  · next isEmpty =>
    rw [empty isEmpty]
    exact .lead (token _) <| last (token _)
  · exact .lead (token _) <| .lead space <| .trail frames <| .lead space <| last (token _)

theorem brackets (endsWithHole : Bool) (frames : Frames forgets piece) :
    Frames forgets (brackets endsWithHole piece) :=
  .lead (token _) <| .trail frames <| .lead (when _ (token _)) <| last (token _)

theorem condition (test : Frames forgets piece) : Frames forgets (condition piece) :=
  .lead space <| .lead (token _) <| .trail test <| last (token _)

theorem body (statement : Located .statement) (frames : Frames forgets piece) :
    Frames forgets (body statement piece) := by
  unfold Print.body
  split
  · exact .lead space <| last frames
  split
  · exact frames
  · exact indented <| .lead newline <| last frames

theorem otherwise (consequent alternate : Located .statement) (frames : Frames forgets piece) :
    Frames forgets (otherwise consequent alternate piece) := by
  refine .lead ?_ <| .lead (token _) <| last ?_
  · split
    · exact space
    · exact newline
  · split
    · exact .lead space <| last frames
    · exact body alternate frames

theorem jump (word : String) (label : Frames forgets piece) : Frames forgets (jump word piece) :=
  .lead (token _) <| .trail label <| last (token _)

theorem literal (value : LiteralValue) : Frames false (literal value) := by
  unfold Print.literal
  split
  · exact token _
  · exact token _
  · exact token _
  · exact token _
  · exact token _
  · exact regex _

theorem accessor (kind : MethodKind) : Frames false (accessor kind) := by
  unfold Print.accessor
  split
  · exact .lead (token _) <| last (raw _)
  · exact .lead (token _) <| last (raw _)
  · exact nothing
  · exact nothing

theorem modifiers (kind : MethodKind) (isAsync isGenerator : Bool) :
    Frames false (modifiers kind isAsync isGenerator) :=
  .lead (accessor kind) <| .lead (when _ (.lead (token _) <| last (raw _))) <|
    last (when _ (token _))

theorem staticWord (isStatic : Bool) : Frames false (staticWord isStatic) :=
  when _ <| .lead (token _) <| last (raw _)

theorem functionRest (parameters : Frames forgets piece) (content : Frames forgets' piece') :
    Frames (forgets || forgets') (functionRest piece piece') :=
  .lead (token _) <| .cons parameters <| .lead (token _) <| .lead space <| last content

theorem unary (operator : UnaryOperator) : Frames false (unary operator) := by
  unfold Print.unary
  split
  · exact .lead (token _) <| last space
  · exact .lead (token _) <| last space
  · exact .lead (token _) <| last space
  · exact token _

theorem hole (frames : Frames forgets piece) : Frames false (hole piece) :=
  .lead (raw _) <| .lead (allowingIn frames) <| last (raw _)

theorem separator (category : Category) : Frames false category.separator := by
  unfold Category.separator
  split
  · exact newline
  · exact newline
  · exact newline
  · exact comma

end Frames

end Print

namespace Node

/-- Whether a phrase has parentheses at a place where the operator `in` needs them. -/
def isEnclosed {category : Category} (node : Node category) : Place → Bool
  | .holes _ => false
  | .operand minimum => node.level < minimum || node.isInOperator

/-- Whether printing a phrase forgets that the operator `in` needs parentheses: outside of
parentheses and of the holes of templates, it has a loop with three parts whose first part is
there. -/
def forgetsIn : {category : Category} → Node category → Place → Bool
  | _, .cons head tail => fun place =>
      match place with
      | .operand minimum => head.forgetsIn (.operand minimum) || tail.forgetsIn (.operand minimum)
      | .holes _ => false
  | _, .some value => fun place => value.forgetsIn place
  | _, .located _ _ item => fun place => !item.isEnclosed place && item.forgetsIn place
  -- statements
  | _, .expressionStatement expression => fun _ =>
      !expression.opensDeclaration && expression.forgetsIn .sequence
  | _, .variableStatement _ declarators => fun _ => declarators.forgetsIn .assignment
  | _, .functionDeclaration definition => fun _ => definition.forgetsIn .sequence
  | _, .classDeclaration definition => fun _ => definition.forgetsIn .sequence
  | _, .returnStatement value => fun _ => value.forgetsIn .sequence
  | _, .breakStatement label => fun _ => label.forgetsIn .sequence
  | _, .continueStatement label => fun _ => label.forgetsIn .sequence
  | _, .throwStatement value => fun _ => value.forgetsIn .sequence
  | _, .ifStatement test consequent alternate => fun _ =>
      test.forgetsIn .sequence || (consequent.forgetsIn .sequence || alternate.forgetsIn .sequence)
  | _, .whileStatement test statement => fun _ =>
      test.forgetsIn .sequence || statement.forgetsIn .sequence
  | _, .doStatement statement test => fun _ =>
      statement.forgetsIn .sequence || test.forgetsIn .sequence
  | _, .forStatement head test update statement => fun _ =>
      !head.isAbsent || (test.forgetsIn .sequence ||
        (update.forgetsIn .sequence || statement.forgetsIn .sequence))
  | _, .forInStatement left right statement => fun _ =>
      left.forgetsIn .sequence || (right.forgetsIn .sequence || statement.forgetsIn .sequence)
  | _, .forOfStatement left right statement => fun _ =>
      left.forgetsIn .sequence || (right.forgetsIn .assignment || statement.forgetsIn .sequence)
  | _, .switchStatement discriminant cases => fun _ =>
      discriminant.forgetsIn .sequence || cases.forgetsIn .sequence
  | _, .tryStatement content clause finalizer => fun _ =>
      content.forgetsIn .sequence || (clause.forgetsIn .sequence || finalizer.forgetsIn .sequence)
  | _, .blockStatement statements => fun _ => statements.forgetsIn .sequence
  | _, .labeledStatement label statement => fun _ =>
      label.forgetsIn .sequence || statement.forgetsIn .sequence
  -- parts of statements
  | _, .declarator id value => fun _ => id.forgetsIn .sequence || value.forgetsIn .assignment
  | _, .declarationHead _ declarators => fun _ => declarators.forgetsIn .assignment
  | _, .expressionHead expression => fun _ =>
      !expression.isEnclosed .sequence && expression.forgetsIn .sequence
  | _, .patternHead pattern => fun _ => pattern.forgetsIn .sequence
  | _, .block statements => fun _ => statements.forgetsIn .sequence
  | _, .handler parameter content => fun _ =>
      parameter.forgetsIn .sequence || content.forgetsIn .sequence
  | _, .switchCase test consequent => fun _ =>
      test.forgetsIn .sequence || consequent.forgetsIn .sequence
  -- functions and classes
  | _, .function name _ _ parameters content => fun _ =>
      name.forgetsIn .sequence ||
        (parameters.forgetsIn .assignment || content.forgetsIn .sequence)
  | _, .classDefinition name parent (.located _ _ members) => fun _ =>
      name.forgetsIn .sequence || (parent.forgetsIn .call || members.forgetsIn .sequence)
  | _, .methodMember _ key _ (.located _ _ (.function _ _ _ parameters content)) => fun _ =>
      key.forgetsIn .sequence ||
        (parameters.forgetsIn .assignment || content.forgetsIn .sequence)
  | _, .fieldMember _ key value => fun _ =>
      key.forgetsIn .sequence || value.forgetsIn .assignment
  | _, .computedKey expression => fun _ => expression.forgetsIn .assignment
  -- expressions
  | _, .templateExpression content => fun _ => content.forgetsIn .sequence
  | _, .taggedTemplate tag quasi => fun _ => tag.forgetsIn .call || quasi.forgetsIn .sequence
  | _, .arrayExpression elements => fun _ => elements.forgetsIn .assignment
  | _, .objectExpression properties => fun _ => properties.forgetsIn .assignment
  | _, .memberExpression object property => fun _ =>
      (!object.isNumber && object.forgetsIn .call) || property.forgetsIn .sequence
  | _, .computedMember object property => fun _ =>
      (!object.isNumber && object.forgetsIn .call) || property.forgetsIn .sequence
  | _, .callExpression callee arguments => fun _ =>
      callee.forgetsIn .call || arguments.forgetsIn .assignment
  | _, .newExpression callee arguments => fun _ =>
      (!callee.containsCall && callee.forgetsIn .call) || arguments.forgetsIn .assignment
  | _, .unaryExpression _ argument => fun _ => argument.forgetsIn (.operand Level.unary)
  | _, .updateExpression _ true argument => fun _ =>
      argument.forgetsIn (.operand Level.postfixUpdate)
  | _, .updateExpression _ false argument => fun _ => argument.forgetsIn .call
  | _, .binaryExpression .power left right => fun _ =>
      left.forgetsIn (.operand Level.postfixUpdate) || right.forgetsIn (.operand Level.power)
  | _, .binaryExpression op left right => fun _ =>
      left.forgetsIn (.operand op.level) || right.forgetsIn (.operand (op.level + 1))
  | _, .logicalExpression op left right => fun _ =>
      (!left.mixesWith op && left.forgetsIn (.operand op.level)) ||
        (!right.mixesWith op && right.forgetsIn (.operand (op.level + 1)))
  | _, .assignmentExpression _ left right => fun _ =>
      left.forgetsIn .sequence || right.forgetsIn .assignment
  | _, .conditionalExpression test consequent alternate => fun _ =>
      test.forgetsIn (.operand Level.logicalOr) ||
        (consequent.forgetsIn .assignment || alternate.forgetsIn .assignment)
  | _, .sequenceExpression expressions => fun _ => expressions.forgetsIn .assignment
  | _, .spreadExpression argument => fun _ => argument.forgetsIn .assignment
  | _, .arrowFunction _ parameters body => fun _ =>
      parameters.forgetsIn .assignment || body.forgetsIn .sequence
  | _, .functionExpression definition => fun _ => definition.forgetsIn .sequence
  | _, .classExpression definition => fun _ => definition.forgetsIn .sequence
  | _, .yieldExpression argument _ => fun _ => argument.forgetsIn .assignment
  | _, .awaitExpression argument => fun _ => argument.forgetsIn (.operand Level.unary)
  -- parts of expressions
  | _, .expressionBody expression => fun _ =>
      !expression.opensDeclaration && expression.forgetsIn .assignment
  | _, .blockBody content => fun _ => content.forgetsIn .sequence
  | _, .valueProperty key value => fun _ =>
      key.forgetsIn .sequence || value.forgetsIn .assignment
  | _, .methodProperty key _ (.located _ _ (.function _ _ _ parameters content)) => fun _ =>
      key.forgetsIn .sequence ||
        (parameters.forgetsIn .assignment || content.forgetsIn .sequence)
  | _, .spreadProperty argument => fun _ => argument.forgetsIn .assignment
  -- patterns
  | _, .expressionPattern expression => fun _ =>
      !expression.isEnclosed .call && expression.forgetsIn .sequence
  | _, .arrayPattern elements => fun _ => elements.forgetsIn .assignment
  | _, .objectPattern properties => fun _ => properties.forgetsIn .assignment
  | _, .defaultPattern left right => fun _ =>
      left.forgetsIn .sequence || right.forgetsIn .assignment
  | _, .restPattern argument => fun _ => argument.forgetsIn .sequence
  | _, .bindingProperty _ value true => fun _ => value.forgetsIn .sequence
  | _, .bindingProperty key value false => fun _ =>
      key.forgetsIn .sequence || value.forgetsIn .sequence
  | _, .restProperty argument => fun _ => argument.forgetsIn .sequence
  | _, _ => fun _ => false

variable {category : Category} {place : Place}

theorem forgetsIn_of_isNil {list : Many category} (isNil : list.isNil = true) :
    list.forgetsIn place = false := by
  cases list with
  | nil => rfl
  | cons => cases isNil

theorem forgetsIn_of_isAbsent {value : Optional category} (isAbsent : value.isAbsent = true) :
    value.forgetsIn place = false := by
  cases value with
  | none => rfl
  | some => cases isAbsent

/-- In the holes of a template nothing is forgotten. -/
theorem forgetsIn_holes (list : Many category) (chunks : List String) :
    list.forgetsIn (.holes chunks) = false := by
  cases list with
  | nil => rfl
  | cons => rfl

end Node

namespace Print.Frames

variable {forgets : Bool} {piece : Print} {category : Category} {place : Place}

theorem leftover (place : Place) : Frames false place.leftover := by
  cases place with
  | operand => exact nothing
  | holes chunks => exact all_raw chunks

/-- Where the operator `in` needs no parentheses, there is nothing to forget. -/
theorem enclose (node : Node category) (place : Place) (frames : Frames forgets piece) :
    Frames (!node.isEnclosed place && forgets) (node.enclose place piece) := by
  cases place with
  | holes chunks => exact frames
  | operand minimum =>
      intro writer
      have bare := frames writer
      have closed := frames.parenthesized writer
      unfold Node.enclose
      dsimp only
      split
      · next encloses =>
        refine ⟨closed.written, closed.style, closed.indent, ?_⟩
        rw [closed.noIn]
        cases needed : writer.noIn with
        | false => rfl
        | true =>
            rw [needed, Bool.true_and] at encloses
            rw [Node.isEnclosed, encloses]
            rfl
      · next bares =>
        refine ⟨bare.written, bare.style, bare.indent, ?_⟩
        rw [bare.noIn]
        cases needed : writer.noIn with
        | false => rfl
        | true =>
            rw [needed, Bool.true_and] at bares
            rw [Node.isEnclosed, Bool.eq_false_iff.2 bares]
            rfl

end Print.Frames

namespace Node

open Print

/-- Printing a phrase only adds to the output and gives back the indentation. -/
theorem print_frames : {category : Category} → (node : Node category) → (place : Place) →
    Frames (node.forgetsIn place) (node.print place)
  | _, .nil, place => .leftover place
  | .list item, .cons head tail, .operand minimum =>
      .cons (head.print_frames _) <| .lead (.when _ (.separator _)) <| .last (tail.print_frames _)
  | _, .cons head tail, .holes [] => .hole (head.print_frames _)
  | _, .cons head tail, .holes (_ :: chunks) =>
      .lead (.hole (head.print_frames _)) <| .lead (.raw _) <|
        .last ((tail.print_frames _).of_eq (forgetsIn_holes tail chunks))
  | _, .none, _ => .nothing
  | _, .some value, place => value.print_frames place
  | _, .located _ _ item, place => .enclose item place (item.print_frames place)
  | _, .word text, _ => .token text
  -- statements
  | _, .emptyStatement, _ => .token ";"
  | _, .debuggerStatement, _ => .token "debugger;"
  | _, .expressionStatement expression, _ =>
      .trail (.parensIf (expression.print_frames _) (expression.print_frames _)) <|
        .last (.token _)
  | _, .variableStatement _ declarators, _ =>
      .lead (.token _) <| .lead (.raw _) <| .trail (declarators.print_frames _) <|
        .last (.token _)
  | _, .functionDeclaration definition, _ => definition.print_frames _
  | _, .classDeclaration definition, _ => definition.print_frames _
  | _, .returnStatement .none, _ => .lead (.token _) <| .last (.token _)
  | _, .returnStatement (.some value), _ =>
      .lead (.token _) <| .lead .space <| .trail (value.print_frames _) <| .last (.token _)
  | _, .breakStatement .none, _ => .jump "break" .nothing
  | _, .breakStatement (.some label), _ =>
      .jump "break" <| .lead (.raw _) <| .last (label.print_frames _)
  | _, .continueStatement .none, _ => .jump "continue" .nothing
  | _, .continueStatement (.some label), _ =>
      .jump "continue" <| .lead (.raw _) <| .last (label.print_frames _)
  | _, .throwStatement value, _ =>
      .lead (.token _) <| .lead .space <| .trail (value.print_frames _) <| .last (.token _)
  | _, .ifStatement test consequent .none, _ =>
      .lead (.token _) <| .cons (.condition (test.print_frames _)) <|
        .cons (.body consequent (consequent.print_frames _)) .nothing
  | _, .ifStatement test consequent (.some alternate), _ =>
      .lead (.token _) <| .cons (.condition (test.print_frames _)) <|
        .cons (.body consequent (consequent.print_frames _)) <|
          .last (.otherwise consequent alternate (alternate.print_frames _))
  | _, .whileStatement test statement, _ =>
      .lead (.token _) <| .cons (.condition (test.print_frames _)) <|
        .last (.body statement (statement.print_frames _))
  | _, .doStatement statement test, _ =>
      .lead (.token _) <| .cons (.body statement (statement.print_frames _)) <| .lead .space <|
        .lead (.token _) <| .trail (.condition (test.print_frames _)) <| .last (.token _)
  | _, .forStatement head test update statement, _ =>
      .lead (.token _) <| .lead .space <| .lead (.token _) <|
        .cons (.firstPart (head.print_frames _)) <| .lead (.token _) <|
          .cons (.ifAny (.lead .space <| .last (test.print_frames _)) forgetsIn_of_isAbsent) <|
            .lead (.token _) <|
              .cons (.ifAny (.lead .space <| .last (update.print_frames _))
                forgetsIn_of_isAbsent) <|
                .lead (.token _) <| .last (.body statement (statement.print_frames _))
  | _, .forInStatement left right statement, _ =>
      .lead (.token _) <| .lead .space <| .lead (.token _) <| .cons (left.print_frames _) <|
        .lead (.token _) <| .lead .space <| .cons (right.print_frames _) <| .lead (.token _) <|
          .last (.body statement (statement.print_frames _))
  | _, .forOfStatement left right statement, _ =>
      .lead (.token _) <| .lead .space <| .lead (.token _) <| .cons (left.print_frames _) <|
        .lead (.token _) <| .lead .space <| .cons (right.print_frames _) <| .lead (.token _) <|
          .last (.body statement (statement.print_frames _))
  | _, .switchStatement discriminant cases, _ =>
      .lead (.token _) <| .cons (.condition (discriminant.print_frames _)) <| .lead .space <|
        .last (.braces (cases.print_frames _) forgetsIn_of_isNil)
  | _, .tryStatement content clause finalizer, _ =>
      .lead (.token _) <| .lead .space <| .cons (content.print_frames _) <|
        .cons (clause.print_frames _) <|
          .last (.ifAny (.lead .space <| .lead (.token _) <| .lead .space <|
            .last (finalizer.print_frames _)) forgetsIn_of_isAbsent)
  | _, .blockStatement statements, _ =>
      .braces (statements.print_frames _) forgetsIn_of_isNil
  | _, .labeledStatement label statement, _ =>
      .cons (label.print_frames _) <| .lead (.token _) <| .lead .space <|
        .last (statement.print_frames _)
  -- parts of statements
  | _, .declarator id .none, _ => (id.print_frames _).of_eq (Bool.or_false _).symm
  | _, .declarator id (.some value), _ =>
      .cons (id.print_frames _) <| .lead (.operator _) <| .last (value.print_frames _)
  | _, .declarationHead _ declarators, _ =>
      .lead (.token _) <| .lead (.raw _) <| .last (declarators.print_frames _)
  | _, .expressionHead expression, _ => .enclose expression _ (expression.print_frames _)
  | _, .patternHead pattern, _ => pattern.print_frames _
  | _, .block statements, _ => .braces (statements.print_frames _) forgetsIn_of_isNil
  | _, .handler .none content, _ =>
      .lead .space <| .lead (.token _) <| .lead .space <| .last (content.print_frames _)
  | _, .handler (.some parameter) content, _ =>
      .lead .space <| .lead (.token _) <| .lead .space <| .lead (.token _) <|
        .cons (parameter.print_frames _) <| .lead (.token _) <| .lead .space <|
          .last (content.print_frames _)
  | _, .switchCase .none consequent, _ =>
      .lead (.token "default") <| .lead (.token _) <|
        .last (.indented <| .ifAny (.lead .newline <| .last (consequent.print_frames _))
          forgetsIn_of_isNil)
  | _, .switchCase (.some test) consequent, _ =>
      .cons (.lead (.token "case") <| .lead .space <| .last (test.print_frames .sequence)) <|
        .lead (.token _) <|
          .last (.indented <| .ifAny (.lead .newline <| .last (consequent.print_frames _))
            forgetsIn_of_isNil)
  -- functions and classes
  | _, .function name isGenerator isAsync parameters content, _ =>
      .lead (.when _ (.token _)) <| .lead (.token _) <| .lead (.when _ (.token _)) <|
        .lead (.when _ .space) <| .cons (name.print_frames _) <|
          .last (.functionRest (parameters.print_frames _) (content.print_frames _))
  | _, .classDefinition name parent (.located _ _ members), _ =>
      .lead (.token _) <| .cons (name.print_frames _) <|
        .cons (.ifAny (.lead (.token _) <| .lead (.raw _) <| .last (parent.print_frames _))
          forgetsIn_of_isAbsent) <|
          .lead .space <| .last (.braces (members.print_frames _) forgetsIn_of_isNil)
  | _, .methodMember _ key _ (.located _ _ (.function _ _ _ parameters content)), _ =>
      .lead (.staticWord _) <| .lead (.modifiers _ _ _) <| .cons (key.print_frames _) <|
        .last (.functionRest (parameters.print_frames _) (content.print_frames _))
  | _, .fieldMember _ key value, _ =>
      .lead (.staticWord _) <| .cons (key.print_frames _) <|
        .trail (.ifAny (.lead (.operator _) <| .last (value.print_frames _))
          forgetsIn_of_isAbsent) <| .last (.token _)
  | _, .nameKey name, _ => .token name
  | _, .literalKey value, _ => .literal value
  | _, .computedKey expression, _ =>
      .lead (.token _) <| .trail (expression.print_frames _) <| .last (.token _)
  -- expressions
  | _, .thisExpression, _ => .token "this"
  | _, .superExpression, _ => .token "super"
  | _, .identifier name, _ => .token name
  | _, .literal value, _ => .literal value
  | _, .templateExpression content, _ => content.print_frames _
  | _, .taggedTemplate tag quasi, _ => .cons (tag.print_frames _) <| .last (quasi.print_frames _)
  | _, .arrayExpression elements, _ => .brackets _ (elements.print_frames _)
  | _, .objectExpression properties, _ =>
      .inlineBraces (properties.print_frames _) forgetsIn_of_isNil
  | _, .memberExpression object property, _ =>
      .cons (.parensIf (object.print_frames _) (object.print_frames _)) <| .lead (.token _) <|
        .last (property.print_frames _)
  | _, .computedMember object property, _ =>
      .cons (.parensIf (object.print_frames _) (object.print_frames _)) <| .lead (.token _) <|
        .trail (property.print_frames _) <| .last (.token _)
  | _, .callExpression callee arguments, _ =>
      .cons (callee.print_frames _) <| .lead (.token _) <| .trail (arguments.print_frames _) <|
        .last (.token _)
  | _, .newExpression callee arguments, _ =>
      .lead (.token _) <| .lead (.raw _) <|
        .cons (.parensIf (callee.print_frames _) (callee.print_frames _)) <| .lead (.token _) <|
          .trail (arguments.print_frames _) <| .last (.token _)
  | _, .unaryExpression operator argument, _ =>
      .lead (.unary operator) <| .last (argument.print_frames _)
  | _, .updateExpression _ true argument, _ => .lead (.token _) <| .last (argument.print_frames _)
  | _, .updateExpression _ false argument, _ => .trail (argument.print_frames _) <| .last (.token _)
  | _, .binaryExpression operator left right, _ => by
      cases operator <;> exact .cons (left.print_frames _) <| .lead (.operator _) <|
        .last (right.print_frames _)
  | _, .logicalExpression _ left right, _ =>
      .cons (.parensIf (left.print_frames _) (left.print_frames _)) <| .lead (.operator _) <|
        .last (.parensIf (right.print_frames _) (right.print_frames _))
  | _, .assignmentExpression _ left right, _ =>
      .cons (left.print_frames _) <| .lead (.operator _) <| .last (right.print_frames _)
  | _, .conditionalExpression test consequent alternate, _ =>
      .cons (test.print_frames _) <| .lead (.operator _) <| .cons (consequent.print_frames _) <|
        .lead (.operator _) <| .last (alternate.print_frames _)
  | _, .sequenceExpression expressions, _ => expressions.print_frames _
  | _, .spreadExpression argument, _ => .lead (.token _) <| .last (argument.print_frames _)
  | _, .arrowFunction _ parameters body, _ =>
      .lead (.when _ (.lead (.token _) <| .last .space)) <| .lead (.token _) <|
        .cons (parameters.print_frames _) <| .lead (.token _) <| .lead (.operator _) <|
          .last (body.print_frames _)
  | _, .functionExpression definition, _ => definition.print_frames _
  | _, .classExpression definition, _ => definition.print_frames _
  | _, .yieldExpression argument _, _ =>
      .lead (.token _) <| .lead (.when _ (.token _)) <|
        .last (.ifAny (.lead .space <| .last (argument.print_frames _)) forgetsIn_of_isAbsent)
  | _, .awaitExpression argument, _ =>
      .lead (.token _) <| .lead .space <| .last (argument.print_frames _)
  -- parts of expressions
  | _, .template .nil _, _ => .lead (.raw _) <| .last (.raw _)
  | _, .template (.cons (.located _ _ (.word _)) _) expressions, _ =>
      .lead (.raw _) <| .lead (.raw _) <|
        .lead ((expressions.print_frames _).of_eq (forgetsIn_holes _ _)) <| .last (.raw _)
  | _, .expressionBody expression, _ =>
      .parensIf (expression.print_frames _) (expression.print_frames _)
  | _, .blockBody content, _ => content.print_frames _
  | _, .shorthandProperty name, _ => .token name
  | _, .valueProperty key value, _ =>
      .cons (key.print_frames _) <| .lead (.token _) <| .lead .space <|
        .last (value.print_frames _)
  | _, .methodProperty key _ (.located _ _ (.function _ _ _ parameters content)), _ =>
      .lead (.modifiers _ _ _) <| .cons (key.print_frames _) <|
        .last (.functionRest (parameters.print_frames _) (content.print_frames _))
  | _, .spreadProperty argument, _ => .lead (.token _) <| .last (argument.print_frames _)
  -- patterns
  | _, .bindingIdentifier name, _ => .token name
  | _, .expressionPattern expression, _ => .enclose expression _ (expression.print_frames _)
  | _, .arrayPattern elements, _ => .brackets _ (elements.print_frames _)
  | _, .objectPattern properties, _ =>
      .inlineBraces (properties.print_frames _) forgetsIn_of_isNil
  | _, .defaultPattern left right, _ =>
      .cons (left.print_frames _) <| .lead (.operator _) <| .last (right.print_frames _)
  | _, .restPattern argument, _ => .lead (.token _) <| .last (argument.print_frames _)
  | _, .bindingProperty _ value true, _ => value.print_frames _
  | _, .bindingProperty key value false, _ =>
      .cons (key.print_frames _) <| .lead (.token _) <| .lead .space <|
        .last (value.print_frames _)
  | _, .restProperty argument, _ => .lead (.token _) <| .last (argument.print_frames _)

end Node

open Print

/-- Whatever is printed only adds to the output and gives back the indentation. Where the operator
`in` needs parentheses, an application of it behind other phrases has them exactly if these phrases
do not forget it. -/
theorem print_balanced_iff {category : Category} (node : Node category) (place : Place)
    (writer : Writer) :
    let after := node.print place writer
    writer.text <+: after.text ∧ after.indent = writer.indent ∧
      (after.noIn = writer.noIn ↔ writer.noIn = false ∨ node.forgetsIn place = false) ∧
      ∀ (start stop minimum : Nat) (left right : Located .expression),
        writer.noIn = true → minimum ≤ BinaryOperator.in'.level →
        let operation := Node.binaryExpression .in' left right
        (Node.located start stop operation).print (.operand minimum) after =
          if node.forgetsIn place then operation.print (.operand minimum) after
          else parenthesized (operation.print (.operand minimum)) after := by
  have grows := node.print_frames place writer
  refine ⟨List.reverse_prefix.2 grows.written, grows.indent, ?_, ?_⟩
  · rw [grows.noIn]
    cases writer.noIn <;> cases node.forgetsIn place <;> decide
  · intro start stop minimum left right needed loose operation
    have known : (node.print place writer).noIn = !node.forgetsIn place := by
      rw [grows.noIn, needed, Bool.true_and]
    change operation.enclose (.operand minimum) _ _ = _
    have level : operation.level = BinaryOperator.in'.level := rfl
    have applies : operation.isInOperator = true := rfl
    simp only [Node.enclose, known, level, applies, Bool.and_true,
      decide_eq_false (Nat.not_lt.2 loose), Bool.false_or]
    cases node.forgetsIn place <;> rfl

/-- The array `[function(){for(a;;);}]`, printed where `in` needs parentheses, leaves the
application `b in c` behind it without them. -/
theorem print_balanced_iff_nested :
    let name (word : String) : Located .expression := .located 0 0 (.identifier word)
    let loop : Node .statement := .forStatement
      (.some (.located 0 0 (.expressionHead (.identifier "a")))) .none .none
      (.located 0 0 .emptyStatement)
    let definition : Node .function := .function .none false false .nil
      (.located 0 0 (.block (.single (.located 0 0 loop))))
    let array : Node .expression :=
      .arrayExpression (.single (.some (.located 0 0 (.functionExpression definition))))
    let writer := { Writer.empty .minified with noIn := true }
    let operation := Node.binaryExpression .in' (name "b") (name "c")
    (array.print .assignment writer).noIn ≠ writer.noIn ∧
      (Node.located 0 0 operation).print .assignment (array.print .assignment writer) =
        operation.print .assignment (array.print .assignment writer) := by
  intro name loop definition array writer operation
  have balanced := print_balanced_iff array .assignment writer
  have forgets : array.forgetsIn .assignment = true := rfl
  refine ⟨fun same => ?_, ?_⟩
  · rcases balanced.2.2.1.1 same with outside | kept
    · cases outside
    · rw [forgets] at kept
      cases kept
  · have bare := balanced.2.2.2 0 0 Level.assignment (name "b") (name "c") rfl (by decide)
    rw [forgets] at bare
    exact bare

end Ecmascript

import Ecmascript.Proofs.Operators.Layout
import Ecmascript.Tree.Rebuild

/-!
# Loop heads that print alike

In the head of a loop with three parts, an application of the operator `in` has parentheses. In the
head of a `for`-`in` loop that declares a variable with a value it has none, although there the word
`in` ends the value. So the loop whose value is such an application prints like the loop over one,
and nothing that reads the text can give both of them back.
-/

set_option autoImplicit false

namespace Ecmascript

open Print

/-- The declaration `var name = value`, as the head of a loop. -/
def Node.declaringHead (name : String) (value : Located .expression) : Node .loopHead :=
  .declarationHead .var
    (.single (.located 0 0 (.declarator (.located 0 0 (.bindingIdentifier name)) (.some value))))

/-- The loop `for (var name = value in object);`. -/
def Node.declaringLoop (name : String) (value object : Located .expression) : Node .statement :=
  .forInStatement (.located 0 0 (declaringHead name value)) object (.located 0 0 .emptyStatement)

/-- A script that consists of one statement. -/
def Program.ofStatement (statement : Node .statement) : Program :=
  { start := 0, stop := 0, body := .single (.located 0 0 statement) }

/-- An application of the operator `in`. -/
def Node.within (left right : Located .expression) : Located .expression :=
  .located 0 0 (.binaryExpression .in' left right)

namespace Print

/-- The head of a loop up to the value of the variable that it declares. -/
def loopOpening (name : String) : Print :=
  all [token "for", space, token "(", token VariableKind.var.spelling, raw " ", token name,
    operator "="]

/-- The end of the head of a loop, and an empty body. -/
def loopClosing : Print :=
  all [token ")", token ";"]

/-- A phrase that no operator divides has no parentheses. -/
theorem print_undivided {category : Category} {minimum : Nat} {item : Node category}
    (undivided : item.level = Level.primary) (other : item.isInOperator = false)
    (loose : minimum ≤ Level.primary) :
    (Node.located 0 0 item).print (.operand minimum) = item.print (.operand minimum) := by
  funext writer
  change item.enclose (.operand minimum) (item.print (.operand minimum)) writer = _
  simp only [Node.enclose, other, undivided, Bool.and_false, Bool.or_false, decide_eq_true_eq,
    if_neg (Nat.not_lt.2 loose)]

theorem print_declaringHead (name : String) (value : Located .expression) (writer : Writer) :
    (Node.declaringHead name value).print .sequence
        (all [token "for", space, token "("] writer) =
      value.print .assignment (loopOpening name writer) := by
  have binding := @print_undivided _ Level.sequence (.bindingIdentifier name) rfl rfl (by decide)
  have declarator := @print_undivided _ Level.assignment
    (.declarator (.located 0 0 (.bindingIdentifier name)) (.some value)) rfl rfl (by decide)
  change all [token VariableKind.var.spelling, raw " ",
    all [Node.print (.located 0 0 (.declarator _ _)) (.operand Level.assignment), nothing,
      nothing]] _ = _
  rw [declarator]
  change all [token VariableKind.var.spelling, raw " ",
    all [all [Node.print (.located 0 0 (.bindingIdentifier name)) (.operand Level.sequence),
      operator "=", value.print .assignment], nothing, nothing]] _ = _
  rw [binding]
  rfl

theorem print_declaringLoop (name : String) (value object : Located .expression)
    (writer : Writer) :
    (Program.ofStatement (.declaringLoop name value object)).body.print .sequence writer =
      loopClosing (object.print .sequence (space (token " in"
        (value.print .assignment (loopOpening name writer))))) := by
  have loop := @print_undivided _ Level.sequence (.declaringLoop name value object)
    rfl rfl (by decide)
  have head := @print_undivided _ Level.sequence (.declaringHead name value) rfl rfl (by decide)
  have empty := @print_undivided _ Level.sequence .emptyStatement rfl rfl (by decide)
  change all [Node.print (.located 0 0 (.declaringLoop name value object))
    (.operand Level.sequence), nothing, nothing] writer = _
  rw [loop, ← print_declaringHead]
  change all [all [token "for", space, token "(",
    Node.print (.located 0 0 (.declaringHead name value)) (.operand Level.sequence), token " in",
    space, object.print .sequence, token ")",
    Node.print (.located 0 0 .emptyStatement) (.operand Level.sequence)], nothing, nothing]
      writer = _
  rw [head, empty]
  rfl

/-- The writer of the pretty style outside of the first part of a loop head. -/
def Plain (writer : Writer) : Prop :=
  writer.style = .pretty ∧ writer.noIn = false

theorem Plain.after {piece : Print} {kinds : List TokenKind} {writer : Writer}
    (writes : Writes .pretty piece kinds) (plain : Plain writer) : Plain (piece writer) := by
  obtain ⟨entries, _, same⟩ := writes
  rw [same writer plain.1 plain.2]
  have kept := items_keep entries writer
  exact ⟨kept.1.trans plain.1, kept.2.trans plain.2⟩

/-- The operator `in` looks like the word between the two sides of a loop head. -/
theorem operator_in {writer : Writer} (plain : Plain writer) :
    operator "in" writer = space (token " in" writer) := by
  have blank : Writer.isWordCharacter ' ' = false := by decide
  have word : "in".toList = ['i', 'n'] := rfl
  have word' : " in".toList = [' ', 'i', 'n'] := rfl
  have apart : writer.needsSpace ' ' = false := by
    unfold Writer.needsSpace
    split
    · rfl
    · simp [Writer.fuses, blank]
  have behind : (writer.push [' ']).needsSpace 'i' = false := by
    simp [Writer.needsSpace, Writer.push, Writer.fuses, blank]
  simp only [operator, all, List.foldl_cons, List.foldl_nil, space, token, word, word', plain.1,
    if_true, apart, behind, Bool.false_eq_true, if_false]
  simp [Writer.push]

/-- Where a formula binds tightly enough for two places, it prints alike in both. -/
theorem print_place {expression : Located .expression} (formula : Formula expression)
    {minimum minimum' : Nat} (tight : minimum ≤ expression.item.level)
    (tight' : minimum' ≤ expression.item.level) :
    expression.print (.operand minimum) = expression.print (.operand minimum') := by
  have same {start stop : Nat} {item : Node .expression}
      (tight : minimum ≤ item.level) (tight' : minimum' ≤ item.level)
      (anywhere : item.print (.operand minimum) = item.print (.operand minimum')) :
      (Node.located start stop item).print (.operand minimum) =
        (Node.located start stop item).print (.operand minimum') := by
    funext writer
    change item.enclose (.operand minimum) (item.print (.operand minimum)) writer =
      item.enclose (.operand minimum') (item.print (.operand minimum')) writer
    simp only [Node.enclose, anywhere, decide_eq_false (Nat.not_lt.2 tight),
      decide_eq_false (Nat.not_lt.2 tight')]
  cases formula with
  | binary operator => exact same tight tight' (by cases operator <;> rfl)
  | _ => exact same tight tight' rfl

/-- An application of `in` outside of the first part of a loop head. -/
theorem print_within {left right : Located .expression} {minimum : Nat} {writer : Writer}
    (plain : Plain writer) (loose : minimum ≤ BinaryOperator.in'.level) :
    (Node.within left right).print (.operand minimum) writer =
      right.print (.operand (BinaryOperator.in'.level + 1))
        (operator "in" (left.print (.operand BinaryOperator.in'.level) writer)) := by
  change Node.enclose (.binaryExpression .in' left right) (.operand minimum) _ writer = _
  have open_ : decide ((Node.binaryExpression .in' left right).level < minimum) = false :=
    decide_eq_false (Nat.not_lt.2 loose)
  simp only [Node.enclose, open_, plain.2, Bool.false_and, Bool.or_false, Bool.false_eq_true,
    if_false]
  rfl

end Print

theorem Print.plain_loopOpening (name : String) :
    Plain (loopOpening name (Writer.empty .pretty)) :=
  Plain.after
    ((Writes.word .forWord).cons (Writes.space.cons ((Writes.mark .leftParen).cons
      ((Writes.word .varWord).cons (Writes.blank.cons ((writes_word name).cons
        (Writes.mark .assign).operator.last))))))
    ⟨rfl, rfl⟩

/-- Where the value of the variable ends is a matter of the tree. -/
theorem declaringLoop_ne (name : String) (first second object object' : Located .expression) :
    (Program.ofStatement (.declaringLoop name (.within first second) object)).body.erase ≠
      (Program.ofStatement (.declaringLoop name first object')).body.erase := by
  intro same
  have loops := (Node.located.inj (Node.cons.inj same).1).2.2
  have heads := (Node.located.inj (Node.forInStatement.inj loops).1).2.2
  have declarators := (Node.declarationHead.inj heads).2
  have declarator := (Node.located.inj (Node.cons.inj declarators).1).2.2
  have value : Node.located 0 0 (.binaryExpression .in' first.erase second.erase) = first.erase :=
    Node.some.inj (Node.declarator.inj declarator).2
  have sizes := congrArg sizeOf value
  simp only [Node.located.sizeOf_spec, Node.binaryExpression.sizeOf_spec] at sizes
  omega

/-- A loop over an object whose variable gets the value `first in second`, and a loop over
`second in object` whose variable gets the value `first`, are different scripts that print alike in
the pretty style. -/
theorem print_declaringLoop_alike {first second object : Located .expression} (name : String)
    (formula : Formula first) (formula' : Formula second) (formula'' : Formula object)
    (tight : BinaryOperator.in'.level ≤ first.item.level)
    (tight' : BinaryOperator.in'.level < second.item.level)
    (tight'' : BinaryOperator.in'.level < object.item.level) :
    let left := Program.ofStatement (.declaringLoop name (.within first second) object)
    let right := Program.ofStatement (.declaringLoop name first (.within second object))
    left.print .pretty = right.print .pretty ∧ left.body.erase ≠ right.body.erase := by
  refine ⟨?_, declaringLoop_ne name first second object _⟩
  have opened := plain_loopOpening name
  have begun := opened.after (writes_lexemes formula BinaryOperator.in'.level)
  have loose : Level.assignment ≤ BinaryOperator.in'.level := by decide
  have looser : Level.sequence ≤ BinaryOperator.in'.level := by decide
  have values : first.print .assignment = first.print (.operand BinaryOperator.in'.level) :=
    print_place formula (Nat.le_trans loose tight) tight
  have operands : second.print (.operand (BinaryOperator.in'.level + 1)) =
      second.print (.operand BinaryOperator.in'.level) :=
    print_place formula' tight' (Nat.le_of_lt tight')
  have objects : object.print .sequence = object.print (.operand (BinaryOperator.in'.level + 1)) :=
    print_place formula'' (Nat.le_trans looser (Nat.le_of_lt tight'')) tight''
  have middle : Plain (operator "in" (first.print (.operand BinaryOperator.in'.level)
      (loopOpening name (Writer.empty .pretty)))) :=
    begun.after (Writes.word .inWord).operator
  unfold Program.print
  rw [print_declaringLoop, print_declaringLoop, values, objects, ← operator_in begun]
  unfold Place.assignment Place.sequence
  rw [print_within opened loose, print_within middle looser, operands,
    operator_in (middle.after (writes_lexemes formula' BinaryOperator.in'.level))]

/-- The scripts `for (var x = (a in b) in c);` and `for (var x = a in b in c);`. -/
theorem print_declaringLoop_alike_names :
    let name (word : String) : Located .expression := .located 0 0 (.identifier word)
    let left := Program.ofStatement (.declaringLoop "x" (.within (name "a") (name "b")) (name "c"))
    let right := Program.ofStatement (.declaringLoop "x" (name "a") (.within (name "b") (name "c")))
    left.print .pretty = right.print .pretty ∧ left.body.erase ≠ right.body.erase :=
  print_declaringLoop_alike "x" (.identifier ⟨_, _, _, _, rfl, rfl, rfl, rfl⟩)
    (.identifier ⟨_, _, _, _, rfl, rfl, rfl, rfl⟩) (.identifier ⟨_, _, _, _, rfl, rfl, rfl, rfl⟩)
    (by decide) (by decide) (by decide)

end Ecmascript

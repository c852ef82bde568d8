import Ecmascript.Proofs.Tree.Discipline
import Ecmascript.Source

/-!
# Phrases that hold text

Names, literal values and the words that stand for themselves are the leaves of a tree: they hold a
text and have no parts. The head of a loop that is a mere name or literal has no position of its own
besides that of the leaf, so it holds the text too.
-/

set_option autoImplicit false

namespace Ecmascript

/-- The source text of a literal value. -/
def LiteralValue.text : LiteralValue → Text
  | null => "null".toList
  | boolean true => "true".toList
  | boolean false => "false".toList
  | number raw | string raw | regex raw => raw.toList

namespace Node

/-- The text of an expression that is a single word or literal. -/
def expressionText? : Node .expression → Option Text
  | .thisExpression => Option.some "this".toList
  | .superExpression => Option.some "super".toList
  | .identifier name => Option.some name.toList
  | .literal value => Option.some value.text
  | _ => Option.none

/-- The text of a pattern that is a single name. -/
def patternText? : Node .pattern → Option Text
  | .bindingIdentifier name => Option.some name.toList
  | .expressionPattern expression => expression.expressionText?
  | _ => Option.none

/-- The text that a leaf holds. Phrases with parts hold none themselves. -/
def text? : {category : Category} → Node category → Option Text
  | .word, .word raw => Option.some raw.toList
  | .key, .nameKey name => Option.some name.toList
  | .key, .literalKey value => Option.some value.text
  | .property, .shorthandProperty name => Option.some name.toList
  | .expression, expression => expression.expressionText?
  | .pattern, pattern => pattern.patternText?
  | .loopHead, .expressionHead expression => expression.expressionText?
  | .loopHead, .patternHead pattern => pattern.patternText?
  | _, _ => Option.none

/-! ## Values -/

/-- The value of an expression that is a literal. -/
def expressionValue? : Node .expression → Option LiteralValue
  | .literal value => Option.some value
  | _ => Option.none

/-- The value of a pattern that is a literal. -/
def patternValue? : Node .pattern → Option LiteralValue
  | .expressionPattern expression => expression.expressionValue?
  | _ => Option.none

/-- The value of a leaf that is a literal. -/
def value? : {category : Category} → Node category → Option LiteralValue
  | .key, .literalKey value => Option.some value
  | .expression, expression => expression.expressionValue?
  | .pattern, pattern => pattern.patternValue?
  | .loopHead, .expressionHead expression => expression.expressionValue?
  | .loopHead, .patternHead pattern => pattern.patternValue?
  | _, _ => Option.none

variable {category : Category} {node : Node category} {value : LiteralValue}

theorem expressionText_of_value {expression : Node .expression}
    (literal : expression.expressionValue? = Option.some value) :
    expression.expressionText? = Option.some value.text := by
  cases expression <;> cases literal
  rfl

theorem patternText_of_value {pattern : Node .pattern}
    (literal : pattern.patternValue? = Option.some value) :
    pattern.patternText? = Option.some value.text := by
  cases pattern with
  | expressionPattern expression => exact expressionText_of_value literal
  | _ => cases literal

/-- The text of a literal is that of its value. -/
theorem text_of_value (literal : node.value? = Option.some value) :
    node.text? = Option.some value.text := by
  unfold value? at literal
  split at literal
  · cases literal
    rfl
  · exact expressionText_of_value literal
  · exact patternText_of_value literal
  · exact expressionText_of_value literal
  · exact patternText_of_value literal
  · cases literal

end Node

/-! ## Places of literals -/

/-- Whether a phrase of a category may be a literal. -/
def Category.isLiteral : Category → Bool
  | .key | .expression | .pattern | .loopHead => true
  | _ => false

/-- Whether the items of lists and options have a position if they may be literals. -/
def Category.isProper : Category → Bool
  | .list item | .option item => !item.isLiteral && item.isProper
  | .located item => item.isProper
  | _ => true

namespace Node

/-- A property of phrases and their offsets holds of a phrase if it is located. -/
def AtPlaces (holds : Nat → Nat → {category : Category} → Node category → Prop)
    {category : Category} : Node category → Prop
  | .located start stop item => holds start stop item
  | _ => True

/-- Where the parts of a phrase begin unless they say so themselves: where the phrase says that it
begins, or else where the phrase around it begins. -/
def origin (start : Nat) {category : Category} : Node category → Nat
  | .located start _ _ => start
  | _ => start

/-- If a phrase that begins at an offset is a literal, a property holds of the offset and the
value. -/
def LiteralAt (holds : Nat → LiteralValue → Prop) (start : Nat) {category : Category}
    (node : Node category) : Prop :=
  ∀ value ∈ node.value?, holds start value

end Node

/-- A property holds of every literal and the offset where the nearest located phrase around it
begins. -/
def literals (holds : Nat → LiteralValue → Prop) : Discipline Nat where
  allows start node := node.LiteralAt holds start
  inside start node _ := node.origin start

namespace Node

variable {category : Category} {node : Node category} {holds : Nat → LiteralValue → Prop}
  {start : Nat}

theorem literalAt_of_category (other : category.isLiteral = false) :
    node.LiteralAt holds start := by
  have none : node.value? = Option.none := by
    cases category <;> first | rfl | cases other
  intro value literal
  cases none.symm.trans literal

/-- What is said of the categories of all parts is decided category by category. -/
theorem parts_all (p : Category → Bool) (each : (node.parts.all fun part => p part.1) = true) :
    ∀ part ∈ node.parts, p part.1 = true :=
  List.all_eq_true.1 each

theorem parts_isProper (proper : category.isProper = true) :
    ∀ part ∈ node.parts, part.1.isProper = true := by
  cases node with
  | cons head tail =>
      have item := proper
      rw [Category.isProper, Bool.and_eq_true] at item
      exact List.forall_mem_cons.2 ⟨item.2, List.forall_mem_singleton.2 proper⟩
  | some value =>
      rw [Category.isProper, Bool.and_eq_true] at proper
      exact List.forall_mem_singleton.2 proper.2
  | located start stop item => exact List.forall_mem_singleton.2 proper
  | _ => exact parts_all Category.isProper rfl

theorem literalAt_parts_of_all (others : (node.parts.all fun part => !part.1.isLiteral) = true) :
    ∀ part ∈ node.parts, part.2.LiteralAt holds start := by
  intro part member
  have other := parts_all (fun category => !category.isLiteral) others part member
  rw [Bool.not_eq_true'] at other
  exact literalAt_of_category other

/-- A literal inside of a phrase either has a position or is the whole of the phrase. -/
theorem literalAt_parts (proper : category.isProper = true)
    (places : node.AtPlaces fun start _ _ node => node.LiteralAt holds start)
    (here : node.LiteralAt holds start) :
    ∀ part ∈ node.parts, part.2.LiteralAt holds (node.origin start) := by
  have bare {item : Category} (proper : (!item.isLiteral && item.isProper) = true) :
      item.isLiteral = false := by
    rw [Bool.and_eq_true, Bool.not_eq_true'] at proper
    exact proper.1
  cases node with
  | cons head tail =>
      exact List.forall_mem_cons.2 ⟨literalAt_of_category (bare proper),
        List.forall_mem_singleton.2 (literalAt_of_category rfl)⟩
  | some value => exact List.forall_mem_singleton.2 (literalAt_of_category (bare proper))
  | located start stop item => exact List.forall_mem_singleton.2 places
  | expressionHead expression | patternHead pattern | expressionPattern expression =>
      exact List.forall_mem_singleton.2 here
  | _ => exact literalAt_parts_of_all rfl

/-- What holds of all literals with a position holds of all literals. -/
theorem obeys_literals (node : Node category) :
    ∀ start, category.isProper = true → node.LiteralAt holds start →
      node.Everywhere (AtPlaces fun start _ _ node => node.LiteralAt holds start) →
      node.Obeys (literals holds) start := by
  induction node using induction_on_parts with
  | step node ih =>
      intro start proper here everywhere
      obtain ⟨places, inside⟩ := everywhere_iff.1 everywhere
      refine obeys_iff.2 ⟨here, fun part member => ?_⟩
      exact ih part member _ (parts_isProper proper part member)
        (literalAt_parts proper places here part member) (inside part member)

end Node

end Ecmascript

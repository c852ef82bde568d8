import Ecmascript.Proofs.Operators.Basic
import Ecmascript.Tree.Rebuild

/-!
# How operators group their operands

Trees of infix operators over names, grouped as the precedence of the operators says: what binds
looser stands above what binds tighter, operators that bind alike group to the left, and powers to
the right. Such a tree is determined by its tokens from left to right.
-/

set_option autoImplicit false

namespace Ecmascript

namespace TokenKind

/-- How tightly a token binds what is beside it. A power binds tighter than the operators that have
a precedence, and a name is not divided at all. -/
def tightness : TokenKind → Nat
  | .identifier _ => 15
  | .punctuator .power => 14
  | kind => kind.precedence

/-- Whether a token is an operator between two operands. -/
def IsInfix (kind : TokenKind) : Prop :=
  0 < kind.precedence ∨ kind = .punctuator .power

end TokenKind

/-- The token of an infix operator. -/
def InfixOperator.kind : InfixOperator → TokenKind
  | binary operator => operator.kind
  | logical operator => operator.kind

namespace InfixOperator

/-- An operator that has a precedence is found again by its token. -/
theorem infixOperator_kind {operator : InfixOperator} (other : operator ≠ .binary .power) :
    operator.kind.infixOperator? = some operator := by
  cases operator with
  | binary operator => cases operator <;> first | rfl | exact absurd rfl other
  | logical operator => cases operator <;> rfl

theorem kind_of_infixOperator {kind : TokenKind} {operator : InfixOperator}
    (named : kind.infixOperator? = some operator) :
    operator.kind = kind ∧ operator ≠ .binary .power := by
  cases kind with
  | punctuator mark => cases mark <;> cases named <;> exact ⟨rfl, nofun⟩
  | keyword word => cases word <;> cases named <;> exact ⟨rfl, nofun⟩
  | _ => cases named

theorem tightness_kind {operator : InfixOperator} (other : operator ≠ .binary .power) :
    operator.kind.tightness = operator.kind.precedence ∧ operator.kind.precedence < 14 := by
  cases operator with
  | binary operator => cases operator <;> first | exact absurd rfl other | decide
  | logical operator => cases operator <;> decide

end InfixOperator

namespace Node

/-- The tokens of a tree of infix operators from left to right. -/
def flatten : {category : Category} → Node category → List TokenKind
  | _, .located _ _ item => item.flatten
  | _, .identifier name => [.identifier name]
  | _, .binaryExpression operator left right => left.flatten ++ operator.kind :: right.flatten
  | _, .logicalExpression operator left right => left.flatten ++ operator.kind :: right.flatten
  | _, _ => []

/-- How tightly an expression holds together: as its operator does, or as a name. -/
def tightness : Node .expression → Nat
  | .binaryExpression operator _ _ => operator.kind.tightness
  | .logicalExpression operator _ _ => operator.kind.tightness
  | _ => 15

variable {operator : InfixOperator} {left right : Located .expression}

theorem flatten_combine :
    (operator.combine left right).flatten =
      left.flatten ++ operator.kind :: right.flatten := by
  cases operator <;> rw [InfixOperator.combine, flatten] <;> rfl

theorem erase_combine :
    (operator.combine left right).erase = operator.combine left.erase right.erase := by
  cases operator <;> rfl

theorem tightness_combine : (operator.combine left right).tightness = operator.kind.tightness := by
  cases operator <;> rfl

end Node

/-- A tree of infix operators over names in which each operator has operands that bind tighter than
itself; on its left they may also bind alike. The base of a power is a name, and its exponent a name
or a power. -/
inductive Grouped : Located .expression → Prop
  | name {start stop : Nat} {name : String} : Grouped (.located start stop (.identifier name))
  | operation {start stop : Nat} {operator : InfixOperator} {left right : Located .expression}
      (other : operator ≠ .binary .power) (first : Grouped left) (second : Grouped right)
      (leftTight : operator.kind.precedence ≤ left.item.tightness)
      (rightTight : operator.kind.precedence < right.item.tightness) :
      Grouped (.located start stop (operator.combine left right))
  | power {start stop first last : Nat} {base : String} {exponent : Located .expression}
      (grouped : Grouped exponent)
      (tight : TokenKind.tightness (.punctuator .power) ≤ exponent.item.tightness) :
      Grouped (.located start stop
        (.binaryExpression .power (.located first last (.identifier base)) exponent))

namespace Grouped

variable {tree tree' : Located .expression} {operator : InfixOperator}

/-- No token of a tree binds looser than its operator. -/
theorem tightness_le (grouped : Grouped tree) :
    ∀ kind ∈ tree.flatten, tree.item.tightness ≤ kind.tightness := by
  induction grouped with
  | @name start stop name =>
      intro kind listed
      rw [Node.flatten, Node.flatten, List.mem_singleton] at listed
      subst listed
      exact Nat.le_refl _
  | @operation start stop operator left right other first second leftTight rightTight ih ih' =>
      intro kind listed
      rw [Node.flatten, Node.flatten_combine, List.mem_append, List.mem_cons] at listed
      change (operator.combine left right).tightness ≤ _
      rw [Node.tightness_combine]
      rw [← (InfixOperator.tightness_kind other).1] at leftTight rightTight
      rcases listed with before | rfl | behind
      · exact Nat.le_trans leftTight (ih kind before)
      · exact Nat.le_refl _
      · exact Nat.le_trans (Nat.le_of_lt rightTight) (ih' kind behind)
  | @power start stop first last base exponent grouped tight ih =>
      intro kind listed
      rw [Node.flatten, Node.flatten, Node.flatten, Node.flatten, List.singleton_append,
        List.mem_cons, List.mem_cons] at listed
      rcases listed with rfl | rfl | behind
      · exact Nat.le_succ 14
      · exact Nat.le_refl _
      · exact Nat.le_trans tight (ih kind behind)

/-- A tree has a token. -/
theorem flatten_ne_nil (grouped : Grouped tree) : tree.flatten ≠ [] := by
  cases grouped with
  | name => nofun
  | operation =>
      rw [Node.flatten, Node.flatten_combine]
      exact List.append_ne_nil_of_right_ne_nil _ nofun
  | power => nofun

/-- The operator of a tree other than a power is the last of those that bind loosest, so its place
among the tokens is determined. -/
theorem split_unique {first first' second second' : List TokenKind} {kind kind' : TokenKind}
    (left : ∀ other ∈ first, kind.tightness ≤ other.tightness)
    (right : ∀ other ∈ second, kind.tightness < other.tightness)
    (left' : ∀ other ∈ first', kind'.tightness ≤ other.tightness)
    (right' : ∀ other ∈ second', kind'.tightness < other.tightness)
    (same : first ++ kind :: second = first' ++ kind' :: second') :
    first = first' ∧ kind = kind' ∧ second = second' := by
  -- Were one operator in front of the other, each would bind looser than the other.
  have apart {first second second' : List TokenKind} {kind kind' : TokenKind}
      (right : ∀ other ∈ second, kind.tightness < other.tightness)
      (left' : ∀ other ∈ first ++ kind :: second', kind'.tightness ≤ other.tightness)
      (listed : kind' ∈ second) : False := by
    have above := right kind' listed
    have below := left' kind (List.mem_append_right _ List.mem_cons_self)
    omega
  rcases List.append_eq_append_iff.1 same with ⟨middle, rfl, rest⟩ | ⟨middle, rfl, rest⟩
  · cases middle with
    | nil =>
        obtain ⟨rfl, rfl⟩ := List.cons.inj rest
        exact ⟨(List.append_nil _).symm, rfl, rfl⟩
    | cons head middle =>
        obtain ⟨rfl, rfl⟩ := List.cons.inj rest
        exact (apart right left' (List.mem_append_right _ List.mem_cons_self)).elim
  · cases middle with
    | nil =>
        obtain ⟨rfl, rfl⟩ := List.cons.inj rest
        exact ⟨List.append_nil _, rfl, rfl⟩
    | cons head middle =>
        obtain ⟨rfl, rfl⟩ := List.cons.inj rest
        exact (apart right' left (List.mem_append_right _ List.mem_cons_self)).elim

/-- A single name is no tree of an operator. -/
theorem ne_singleton (grouped : Grouped tree) {kind kind' : TokenKind} {kinds : List TokenKind} :
    [kind] ≠ tree.flatten ++ kind' :: kinds := by
  intro same
  cases nonempty : tree.flatten with
  | nil => exact grouped.flatten_ne_nil nonempty
  | cons head tail =>
      rw [nonempty] at same
      cases tail <;> cases same

/-- In a power, and in a name, there is no operator but powers. -/
theorem not_mem_of_tight (grouped : Grouped tree) (tight : 14 ≤ tree.item.tightness)
    (other : operator ≠ .binary .power) : operator.kind ∉ tree.flatten := by
  intro listed
  have bound := InfixOperator.tightness_kind other
  have above := grouped.tightness_le _ listed
  omega

/-- Trees of the same tokens are the same tree. -/
theorem unique (grouped : Grouped tree) (grouped' : Grouped tree')
    (same : tree.flatten = tree'.flatten) : tree.erase = tree'.erase := by
  induction grouped generalizing tree' with
  | @name start stop name =>
      cases grouped' with
      | name =>
          cases same
          rfl
      | operation other first second leftTight rightTight =>
          rw [Node.flatten, Node.flatten, Node.flatten, Node.flatten_combine] at same
          exact absurd same first.ne_singleton
      | power grouped tight => cases same
  | @operation start stop operator left right other first second leftTight rightTight ih ih' =>
      have loose := InfixOperator.tightness_kind other
      have all : tree'.flatten = left.flatten ++ operator.kind :: right.flatten := by
        rw [← same, Node.flatten, Node.flatten_combine]
      have before kind (listed : kind ∈ left.flatten) : operator.kind.tightness ≤ kind.tightness :=
        Nat.le_trans (loose.1 ▸ leftTight) (first.tightness_le kind listed)
      have behind kind (listed : kind ∈ right.flatten) :
          operator.kind.tightness < kind.tightness :=
        Nat.lt_of_lt_of_le (loose.1 ▸ rightTight) (second.tightness_le kind listed)
      have whole := grouped'
      cases grouped' with
      | name => exact absurd all first.ne_singleton
      | @operation _ _ operator' left' right' other' first' second' leftTight' rightTight' =>
          have loose' := InfixOperator.tightness_kind other'
          rw [Node.flatten, Node.flatten_combine] at all
          obtain ⟨sameLeft, sameKind, sameRight⟩ := split_unique
            (fun kind listed => Nat.le_trans (loose'.1 ▸ leftTight')
              (first'.tightness_le kind listed))
            (fun kind listed => Nat.lt_of_lt_of_le (loose'.1 ▸ rightTight')
              (second'.tightness_le kind listed)) before behind all
          have sameOperator : operator = operator' := Option.some.inj <| by
            rw [← InfixOperator.infixOperator_kind other,
              ← InfixOperator.infixOperator_kind other', sameKind]
          subst sameOperator
          change Node.located 0 0 (operator.combine left right).erase =
            Node.located 0 0 (operator.combine left' right').erase
          rw [Node.erase_combine, Node.erase_combine, ih first' sameLeft.symm,
            ih' second' sameRight.symm]
      | power grouped tight =>
          refine absurd ?_ (whole.not_mem_of_tight (Nat.le_refl _) other)
          rw [all]
          exact List.mem_append_right _ List.mem_cons_self
  | @power start stop first last base exponent grouped tight ih =>
      cases grouped' with
      | name => cases same
      | @operation _ _ operator' left' right' other' first' second' leftTight' rightTight' =>
          have whole : Grouped (.located start stop (.binaryExpression .power
              (.located first last (.identifier base)) exponent)) := .power grouped tight
          refine absurd ?_ (whole.not_mem_of_tight (Nat.le_refl _) other')
          rw [same, Node.flatten, Node.flatten_combine]
          exact List.mem_append_right _ List.mem_cons_self
      | @power _ _ _ _ base' exponent' grouped' tight' =>
          obtain ⟨sameBase, sameRest⟩ := List.cons.inj same
          cases sameBase
          change Node.located 0 0 (.binaryExpression .power _ exponent.erase) =
            Node.located 0 0 (.binaryExpression .power _ exponent'.erase)
          rw [ih grouped' (List.cons.inj sameRest).2]
          rfl

end Grouped

end Ecmascript

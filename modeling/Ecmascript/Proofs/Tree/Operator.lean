import Ecmascript.Tree.Describe

/-!
# Names and spellings of operators

No two kinds or operators of a sort share a name, and no two share a spelling.
-/

set_option autoImplicit false

namespace Ecmascript

/-- No two of the first `size` members of an enumeration have the same image. -/
def Apart {α β : Type} (size : Nat) (member : Nat → α) (f : α → β) : Prop :=
  ∀ m < size, ∀ n < size, f (member m) = f (member n) → m = n

instance {α β : Type} [DecidableEq β] (size : Nat) (member : Nat → α) (f : α → β) :
    Decidable (Apart size member f) :=
  inferInstanceAs (Decidable (∀ m < size, ∀ n < size, f (member m) = f (member n) → m = n))

/-- A function on an enumeration is injective when it is so on the numbers of its members. -/
theorem Apart.inj {α β : Type} {number : α → Nat} {member : Nat → α} {size : Nat} {f : α → β}
    (apart : Apart size member f) (numbered : ∀ a, member (number a) = a)
    (bounded : ∀ a, number a < size) {a b : α} : f a = f b ↔ a = b := by
  refine ⟨fun same => ?_, congrArg f⟩
  have numbers := apart (number a) (bounded a) (number b) (bounded b)
    (by rw [numbered, numbered, same])
  rw [← numbered a, ← numbered b, numbers]

-- All the tables are compared in one evaluation for the names and one for the spellings.
theorem describe_apart :
    Apart 3 VariableKind.ofNat VariableKind.describe ∧
    Apart 4 MethodKind.ofNat MethodKind.describe ∧
    Apart 7 UnaryOperator.ofNat UnaryOperator.describe ∧
    Apart 2 UpdateOperator.ofNat UpdateOperator.describe ∧
    Apart 22 BinaryOperator.ofNat BinaryOperator.describe ∧
    Apart 3 LogicalOperator.ofNat LogicalOperator.describe ∧
    Apart 16 AssignmentOperator.ofNat AssignmentOperator.describe := by
  decide +kernel

theorem spelling_apart :
    Apart 3 VariableKind.ofNat VariableKind.spelling ∧
    Apart 7 UnaryOperator.ofNat UnaryOperator.spelling ∧
    Apart 2 UpdateOperator.ofNat UpdateOperator.spelling ∧
    Apart 22 BinaryOperator.ofNat BinaryOperator.spelling ∧
    Apart 3 LogicalOperator.ofNat LogicalOperator.spelling ∧
    Apart 16 AssignmentOperator.ofNat AssignmentOperator.spelling := by
  decide +kernel

namespace VariableKind

variable {kind kind' : VariableKind}

theorem ctorIdx_lt (kind : VariableKind) : kind.ctorIdx < 3 := by
  cases kind <;> exact Nat.le_of_ble_eq_true rfl

@[simp] theorem describe_inj : kind.describe = kind'.describe ↔ kind = kind' :=
  describe_apart.1.inj ofNat_ctorIdx ctorIdx_lt

@[simp] theorem spelling_inj : kind.spelling = kind'.spelling ↔ kind = kind' :=
  spelling_apart.1.inj ofNat_ctorIdx ctorIdx_lt

end VariableKind

namespace MethodKind

variable {kind kind' : MethodKind}

theorem ctorIdx_lt (kind : MethodKind) : kind.ctorIdx < 4 := by
  cases kind <;> exact Nat.le_of_ble_eq_true rfl

@[simp] theorem describe_inj : kind.describe = kind'.describe ↔ kind = kind' :=
  describe_apart.2.1.inj ofNat_ctorIdx ctorIdx_lt

end MethodKind

namespace UnaryOperator

variable {operator operator' : UnaryOperator}

theorem ctorIdx_lt (operator : UnaryOperator) : operator.ctorIdx < 7 := by
  cases operator <;> exact Nat.le_of_ble_eq_true rfl

@[simp] theorem describe_inj : operator.describe = operator'.describe ↔ operator = operator' :=
  describe_apart.2.2.1.inj ofNat_ctorIdx ctorIdx_lt

@[simp] theorem spelling_inj : operator.spelling = operator'.spelling ↔ operator = operator' :=
  spelling_apart.2.1.inj ofNat_ctorIdx ctorIdx_lt

end UnaryOperator

namespace UpdateOperator

variable {operator operator' : UpdateOperator}

theorem ctorIdx_lt (operator : UpdateOperator) : operator.ctorIdx < 2 := by
  cases operator <;> exact Nat.le_of_ble_eq_true rfl

@[simp] theorem describe_inj : operator.describe = operator'.describe ↔ operator = operator' :=
  describe_apart.2.2.2.1.inj ofNat_ctorIdx ctorIdx_lt

@[simp] theorem spelling_inj : operator.spelling = operator'.spelling ↔ operator = operator' :=
  spelling_apart.2.2.1.inj ofNat_ctorIdx ctorIdx_lt

end UpdateOperator

namespace BinaryOperator

variable {operator operator' : BinaryOperator}

theorem ctorIdx_lt (operator : BinaryOperator) : operator.ctorIdx < 22 := by
  cases operator <;> exact Nat.le_of_ble_eq_true rfl

@[simp] theorem describe_inj : operator.describe = operator'.describe ↔ operator = operator' :=
  describe_apart.2.2.2.2.1.inj ofNat_ctorIdx ctorIdx_lt

@[simp] theorem spelling_inj : operator.spelling = operator'.spelling ↔ operator = operator' :=
  spelling_apart.2.2.2.1.inj ofNat_ctorIdx ctorIdx_lt

end BinaryOperator

namespace LogicalOperator

variable {operator operator' : LogicalOperator}

theorem ctorIdx_lt (operator : LogicalOperator) : operator.ctorIdx < 3 := by
  cases operator <;> exact Nat.le_of_ble_eq_true rfl

@[simp] theorem describe_inj : operator.describe = operator'.describe ↔ operator = operator' :=
  describe_apart.2.2.2.2.2.1.inj ofNat_ctorIdx ctorIdx_lt

@[simp] theorem spelling_inj : operator.spelling = operator'.spelling ↔ operator = operator' :=
  spelling_apart.2.2.2.2.1.inj ofNat_ctorIdx ctorIdx_lt

end LogicalOperator

namespace AssignmentOperator

variable {operator operator' : AssignmentOperator}

theorem ctorIdx_lt (operator : AssignmentOperator) : operator.ctorIdx < 16 := by
  cases operator <;> exact Nat.le_of_ble_eq_true rfl

@[simp] theorem describe_inj : operator.describe = operator'.describe ↔ operator = operator' :=
  describe_apart.2.2.2.2.2.2.inj ofNat_ctorIdx ctorIdx_lt

@[simp] theorem spelling_inj : operator.spelling = operator'.spelling ↔ operator = operator' :=
  spelling_apart.2.2.2.2.2.inj ofNat_ctorIdx ctorIdx_lt

end AssignmentOperator

end Ecmascript

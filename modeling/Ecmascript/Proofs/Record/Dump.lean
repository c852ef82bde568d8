import Ecmascript.Proofs.Record.Readable
import Ecmascript.Proofs.Tree.Operator

/-!
# Descriptions determine trees

A tree can be told from its description, positions and literal text included: the name in front of
the description of a phrase tells its form within its category, and the fields tell its parts. All
names and labels are names in the sense of records, so the canonical text of a script can be read
back and determines the statements.
-/

set_option autoImplicit false

namespace Ecmascript

variable {category : Category} {node node' : Node category}

/-! ## Leaves -/

namespace Record

@[simp] theorem boolean_inj {value value' : Bool} :
    boolean value = boolean value' ↔ value = value' := by
  cases value <;> cases value' <;> decide

@[simp] theorem nat_inj {value value' : Nat} : nat value = nat value' ↔ value = value' := by
  rw [nat, nat, word.injEq]
  exact toString_inj

/-- Within a category nothing is lost when the items of a list become one value. -/
@[simp] theorem whole_inj {record record' : Record category.recordSort} :
    record.whole = record'.whole ↔ record = record' := by
  cases category with
  | list => exact ⟨Record.list.inj, congrArg _⟩
  | _ => exact Iff.rfl

@[simp] theorem spelled_boolean (value : Bool) : (boolean value).Spelled := by
  cases value <;> rfl

@[simp] theorem spelled_nat (value : Nat) : (nat value).Spelled := by
  have digits : ∀ c ∈ Nat.toDigits 10 value, isNameCharacter c = true :=
    isNameCharacter_digit (by decide) (by decide)
  rw [nat, Nat.toString_eq_ofList_toDigits]
  simpa [Spelled, isName, Nat.toDigits_ne_nil] using digits

@[simp] theorem spelled_whole {record : Record category.recordSort} :
    record.whole.Spelled ↔ record.Spelled := by
  cases category <;> exact Iff.rfl

/-- A node is spelled when its name and its labels are names and its fields are spelled. -/
theorem spelled_node {name : String} {fields : List (String × Record .value)} :
    (Record.node name fields).Spelled ↔
      isName name.toList = true ∧
        ∀ field ∈ fields, isName field.1.toList = true ∧ field.2.Spelled := by
  refine and_congr_right' ?_
  induction fields with
  | nil => simp [ofFields, Spelled]
  | cons field rest ih => simp [ofFields, Spelled, ih, and_assoc]

end Record

@[simp] theorem VariableKind.spelled_describe (kind : VariableKind) : kind.describe.Spelled := by
  cases kind <;> rfl

@[simp] theorem MethodKind.spelled_describe (kind : MethodKind) : kind.describe.Spelled := by
  cases kind <;> rfl

@[simp] theorem UnaryOperator.spelled_describe (operator : UnaryOperator) :
    operator.describe.Spelled := by
  cases operator <;> rfl

@[simp] theorem UpdateOperator.spelled_describe (operator : UpdateOperator) :
    operator.describe.Spelled := by
  cases operator <;> rfl

@[simp] theorem BinaryOperator.spelled_describe (operator : BinaryOperator) :
    operator.describe.Spelled := by
  cases operator <;> rfl

@[simp] theorem LogicalOperator.spelled_describe (operator : LogicalOperator) :
    operator.describe.Spelled := by
  cases operator <;> rfl

@[simp] theorem AssignmentOperator.spelled_describe (operator : AssignmentOperator) :
    operator.describe.Spelled := by
  cases operator <;> rfl

@[simp] theorem LiteralValue.describe_inj {value value' : LiteralValue} :
    value.describe = value'.describe ↔ value = value' := by
  cases value <;> cases value' <;> simp [LiteralValue.describe]

@[simp] theorem LiteralValue.spelled_describe (value : LiteralValue) :
    value.describe.Spelled := by
  cases value with
  | null => rfl
  | boolean value => exact ⟨rfl, Record.spelled_boolean value⟩
  | number | string | regex => exact ⟨rfl, trivial⟩

/-! ## Forms -/

/-- The number of the first form of a category, and the names of its forms in the order of the
constructors. -/
def Category.forms : Category → Nat × List String
  | .word => (5, [""])
  | .statement => (6, ["Empty", "Debugger", "Expression", "Declaration", "Function", "Class",
      "Return", "Break", "Continue", "Throw", "If", "While", "Do", "For", "ForIn", "ForOf",
      "Switch", "Try", "Block", "Labeled"])
  | .declarator => (26, ["Declarator"])
  | .loopHead => (27, ["Declaration", "Expression", "Pattern"])
  | .block => (30, ["Block"])
  | .handler => (31, ["CatchClause"])
  | .switchCase => (32, ["SwitchCase"])
  | .function => (33, ["Function"])
  | .classDefinition => (34, ["Class"])
  | .member => (35, ["Method", "Field"])
  | .key => (37, ["Identifier", "Literal", "Computed"])
  | .expression => (40, ["This", "Super", "Identifier", "Value", "Template", "TaggedTemplate",
      "Array", "Object", "Member", "ComputedMember", "Call", "New", "Unary", "Update", "Binary",
      "Logical", "Assignment", "Conditional", "Sequence", "Spread", "Arrow", "Function", "Class",
      "Yield", "Await"])
  | .template => (65, ["TemplateLiteral"])
  | .arrowBody => (66, ["Expression", "Block"])
  | .property => (68, ["Shorthand", "Literal", "Method", "Spread"])
  | .pattern => (72, ["Identifier", "Expression", "Array", "Object", "Assignment", "Rest"])
  | .patternProperty => (78, ["Property", "Rest"])
  | .list _ | .option _ | .located _ => (0, [])

/-- The name in front of a record. Quoted text and chains have none. -/
def Record.title : {sort : Record.Sort} → Record sort → String
  | _, .word name | _, .tagged name _ | _, .struct name _ => name
  | _, _ => ""

/-- Whether phrases of a category have forms of their own. -/
def Category.isPlain : Category → Bool
  | .list _ | .option _ | .located _ => false
  | _ => true

/-- The name in front of the description tells the form. -/
theorem ctorIdx_eq_idxOf (plain : category.isPlain = true) (node : Node category) :
    node.ctorIdx = category.forms.2.idxOf node.describe.title + category.forms.1 := by
  cases node with
  | nil | cons | none | some | located => cases plain
  | _ => rfl

theorem ctorIdx_of_describe (plain : category.isPlain = true)
    (same : node.describe = node'.describe) : node.ctorIdx = node'.ctorIdx := by
  rw [ctorIdx_eq_idxOf plain, ctorIdx_eq_idxOf plain, same]

/-! ## Trees -/

theorem Node.describe_inj : node.describe = node'.describe ↔ node = node' := by
  induction node with
  | nil | cons | none | some => cases node' <;> simp [describe, *]
  | located => cases node'; simp [describe, Record.node, Record.ofFields, *]
  | _ =>
      refine ⟨fun same => ?_, congrArg _⟩
      have form := ctorIdx_of_describe (by rfl) same
      -- Another form is ruled out by its number; in the same form the fields are compared.
      cases node' <;> first
        | rfl
        | (cases form; done)
        | simpa [describe, Record.node, Record.ofFields, *] using same

theorem Node.spelled_describe (node : Node category) : node.describe.Spelled := by
  induction node with
  | nil => trivial
  | cons head tail ihHead ihTail => exact ⟨Record.spelled_whole.2 ihHead, ihTail⟩
  | none => rfl
  | some value ih => exact ⟨rfl, Record.spelled_whole.2 ih⟩
  | _ => simp +decide [describe, Record.spelled_node, Record.Spelled, *]

theorem Program.spelled_describe (program : Program) : program.describe.Spelled :=
  program.body.spelled_describe

/-- Two scripts with the same canonical text have the same statements, at the same positions. -/
theorem dump_eq_iff {program program' : Program} :
    program.dump = program'.dump ↔ program.body = program'.body := by
  refine ⟨fun same => ?_, fun same => ?_⟩
  · have texts := String.ofList_inj.1 same
    have described : program.describe = program'.describe :=
      (Record.writeCompact_inj program.spelled_describe program'.spelled_describe
        .text .text texts).1
    exact Node.describe_inj.1 (Record.list.inj described)
  · exact congrArg (fun body => (Record.list body.describe).compact) same

end Ecmascript

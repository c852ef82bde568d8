import Ecmascript.Json.Basic
import Ecmascript.Tree.Operator

/-!
# ESTree nodes

An ESTree node is a JSON object: its type, then its own fields, then the offsets where it begins
and ends. Some types of nodes are containers, whose offsets are zero in legacy mode.
-/

set_option autoImplicit false

namespace Ecmascript.Estree

/-- The types of nodes whose offsets are zero in legacy mode. -/
def legacyContainers : List String :=
  ["Program", "VariableDeclaration", "VariableDeclarator", "FunctionExpression", "BlockStatement",
    "ReturnStatement"]

/-- A node of a type, with its offsets and its own fields. -/
def node (legacy : Bool) (type : String) (start stop : Nat) (fields : List (String × Json)) :
    Json :=
  let hidden := legacy && legacyContainers.contains type
  .object
    (("type", .text type) :: fields ++
      [("start", .nat (if hidden then 0 else start)), ("end", .nat (if hidden then 0 else stop))])

/-- An identifier. -/
def identifier (legacy : Bool) (start stop : Nat) (name : String) : Json :=
  node legacy "Identifier" start stop [("name", .text name)]

/-- The text between the first and the last character. -/
def contents (raw : String) : String :=
  String.ofList ((raw.toList.drop 1).dropLast)

/-- The flags of a regular expression: what follows its last slash. -/
def regexFlags (raw : String) : String :=
  String.ofList (raw.toList.reverse.takeWhile (· ≠ '/')).reverse

/-- The pattern of a regular expression: what stands between its first and its last slash. -/
def regexPattern (raw : String) : String :=
  String.ofList (((raw.toList.reverse.dropWhile (· ≠ '/')).drop 1).reverse.drop 1)

/-- A literal. Its value is the text that stands for it, without quotes for a string; numbers are
not evaluated. -/
def literal (legacy : Bool) (start stop : Nat) : LiteralValue → Json
  | .null => node legacy "Literal" start stop [("value", .null), ("raw", .text "null")]
  | .boolean value =>
      node legacy "Literal" start stop
        [("value", .boolean value), ("raw", .text (if value then "true" else "false"))]
  | .number raw => node legacy "Literal" start stop [("value", .text raw), ("raw", .text raw)]
  | .string raw =>
      node legacy "Literal" start stop [("value", .text (contents raw)), ("raw", .text raw)]
  | .regex raw =>
      node legacy "Literal" start stop
        [("value", .null), ("raw", .text raw),
          ("regex", .object
            [("pattern", .text (regexPattern raw)), ("flags", .text (regexFlags raw))])]

/-- A property of an object or an object pattern. -/
def property (legacy : Bool) (start stop : Nat) (key value : Json) (kind : String)
    (isMethod isShorthand isComputed : Bool) : Json :=
  node legacy "Property" start stop
    [("method", .boolean isMethod), ("shorthand", .boolean isShorthand),
      ("computed", .boolean isComputed), ("key", key), ("value", value), ("kind", .text kind)]

/-- The kind of a method of a class. -/
def classMethodKind : MethodKind → String
  | .constructor => "constructor"
  | .method => "method"
  | .get => "get"
  | .set => "set"

/-- The kind of a method of an object, and whether it counts as a method. -/
def objectMethodKind : MethodKind → String × Bool
  | .get => ("get", false)
  | .set => ("set", false)
  | .method => ("init", true)
  | .constructor => ("init", true)

/-- The chunks of a template, each with its offsets. The last one is the tail. -/
def templateElements (legacy : Bool) : List (Nat × Nat × String) → List Json
  | [] => []
  | (start, stop, raw) :: rest =>
      node legacy "TemplateElement" start stop
        [("value", .object [("raw", .text raw), ("cooked", .text raw)]),
          ("tail", .boolean rest.isEmpty)] :: templateElements legacy rest

/-- A function of a type. -/
def function (legacy : Bool) (type : String) (start stop : Nat) (name : Json)
    (isGenerator isAsync : Bool) (parameters : List Json) (body : Json) : Json :=
  node legacy type start stop
    [("id", name), ("expression", .boolean false), ("generator", .boolean isGenerator),
      ("async", .boolean isAsync), ("params", .array parameters), ("body", body)]

/-- A class of a type. The members have offsets of their own. -/
def classOf (legacy : Bool) (type : String) (start stop : Nat) (name parent : Json)
    (bodyStart bodyStop : Nat) (members : List Json) : Json :=
  node legacy type start stop
    [("id", name), ("superClass", parent),
      ("body", node legacy "ClassBody" bodyStart bodyStop [("body", .array members)])]

/-- A declaration of variables. -/
def variableDeclaration (legacy : Bool) (start stop : Nat) (kind : VariableKind)
    (declarators : List Json) : Json :=
  node legacy "VariableDeclaration" start stop
    [("declarations", .array declarators), ("kind", .text kind.spelling)]

/-- A block of statements. -/
def block (legacy : Bool) (start stop : Nat) (statements : List Json) : Json :=
  node legacy "BlockStatement" start stop [("body", .array statements)]

end Ecmascript.Estree

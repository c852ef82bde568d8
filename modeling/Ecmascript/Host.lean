import Ecmascript.Script

/-!
# Calls from a dynamically typed host

A host passes arguments of any type. They are checked before anything is parsed, and failures are
of the two classes that a script host knows.
-/

set_option autoImplicit false

namespace Ecmascript.Host

/-- An argument. Objects of the host count as undefined. -/
inductive Value where
  | undefined
  | null
  | boolean (value : Bool)
  | number (raw : String)
  | string (value : String)
  deriving DecidableEq

/-- Why a call failed. -/
inductive Failure where
  | sourceNotString
  | minifyNotBoolean
  | notFunction (name : String)
  | invalidSource (error : SyntaxError)
  deriving DecidableEq

namespace Failure

/-- The class of error that the host raises. -/
def name : Failure → String
  | invalidSource _ => "SyntaxError"
  | _ => "TypeError"

/-- The message of a failure, without its class. -/
def reason : Failure → String
  | sourceNotString => "First argument must be a string"
  | minifyNotBoolean => "Second argument must be a boolean"
  | notFunction name => name ++ " is not a function"
  | invalidSource error => error.message

/-- The message of a failure. -/
def message (failure : Failure) : String :=
  failure.name ++ ": " ++ failure.reason

end Failure

/-- The reply to a call. -/
abbrev Reply := Except Failure String

/-- The source text, which is the first argument. -/
def sourceArgument : List Value → Except Failure String
  | .string source :: _ => .ok source
  | _ => .error .sourceNotString

/-- Whether to minify, which is the second argument. -/
def minifyArgument : List Value → Except Failure Bool
  | _ :: .boolean minify :: _ => .ok minify
  | _ => .error .minifyNotBoolean

/-- The canonical text of a script. -/
def parse (arguments : List Value) : Reply := do
  let source ← sourceArgument arguments
  (Script.describe source).mapError .invalidSource

/-- The script lowered and printed. -/
def transform (arguments : List Value) : Reply := do
  let source ← sourceArgument arguments
  let minify ← minifyArgument arguments
  let options := { TransformOptions.standard with style := Style.ofMinify minify }
  (Script.transform options source).mapError .invalidSource

/-- The ESTree document of a script under some options. -/
def astWith (options : ExportOptions) (arguments : List Value) : Reply := do
  let source ← sourceArgument arguments
  (Script.exportText options source).mapError .invalidSource

/-- The ESTree document of a script. -/
def ast (arguments : List Value) : Reply :=
  astWith ExportOptions.standard arguments

/-- Calls a function by its name. -/
def call (name : String) (arguments : List Value) : Reply :=
  if name = "parse" then parse arguments
  else if name = "transform" then transform arguments
  else if name = "ast" then ast arguments
  else .error (.notFunction name)

end Ecmascript.Host

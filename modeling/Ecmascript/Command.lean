import Ecmascript.Error.Frame
import Ecmascript.Options.Json
import Ecmascript.Script

/-!
# The command line

What the command does with its arguments, apart from how files are read: reading is a parameter,
and works in any monad. Arguments are taken from left to right, and the first fault ends the
command; a file of options is read when its argument is reached.
-/

set_option autoImplicit false

namespace Ecmascript.Command

/-- What the command does with a script. -/
inductive Action where
  | parse | transform | ast
  deriving DecidableEq

/-- The action with a name. -/
def Action.ofName? (name : String) : Option Action :=
  if name = "parse" then some .parse
  else if name = "transform" then some .transform
  else if name = "ast" then some .ast
  else none

/-- What the arguments ask for. Without a file, the script comes from standard input. -/
structure Invocation where
  action : Action
  transform : TransformOptions
  exporting : ExportOptions
  file : Option String
  deriving DecidableEq

/-- An action with standard options. -/
def Invocation.ofAction (action : Action) : Invocation :=
  { action
    transform := TransformOptions.standard
    exporting := ExportOptions.standard
    file := none }

/-- Why the command did not come to parse a script. -/
inductive Fault where
  | usage
  | unknownCommand (name : String)
  | unknownOption (flag : String)
  | severalFiles
  | targetMissing
  | unknownTarget (name : String)
  | configMissing
  | configUnreadable (path : String)
  | configInvalid (path : String)
  | fileUnreadable (path : String)
  | standardInputUnreadable
  deriving DecidableEq

/-- How the command is used. -/
def usage : String :=
  "usage: esfront <parse|transform|ast> [options] [FILE]\n\n" ++
    "Reads FILE, or standard input when FILE is absent.\n\n" ++
    "options:\n" ++
    "    --minify          print without layout whitespace (transform)\n" ++
    "    --no-transform    print the tree as parsed (transform)\n" ++
    "    --target NAME     es2015 (default) or es5, which also lowers arrows (transform)\n" ++
    "    --config FILE     read transform options from a JSON file\n" ++
    "    --pretty          indent the JSON document (ast)\n" ++
    "    --legacy-spans    zero the spans of container nodes (ast)"

namespace Fault

/-- The message of a fault. -/
def message : Fault → String
  | usage => Command.usage
  | unknownCommand name => "unknown command `" ++ name ++ "`\n\n" ++ Command.usage
  | unknownOption flag => "unknown option `" ++ flag ++ "`\n\n" ++ Command.usage
  | severalFiles => "more than one input file\n\n" ++ Command.usage
  | targetMissing => "--target needs a name"
  | unknownTarget name => "unknown target `" ++ name ++ "`"
  | configMissing => "--config needs a file"
  | configUnreadable path => "failed to read config " ++ path
  | configInvalid path => "invalid config " ++ path
  | fileUnreadable path => "failed to read " ++ path
  | standardInputUnreadable => "failed to read standard input"

/-- Whether the fault has a cause of its own, which is reported behind the message. -/
def hasCause : Fault → Bool
  | configUnreadable _ => true
  | configInvalid _ => true
  | fileUnreadable _ => true
  | standardInputUnreadable => true
  | _ => false

/-- What is reported about a fault. The line stays open for a cause. -/
def report (fault : Fault) : String :=
  "Error: " ++ fault.message ++ (if fault.hasCause then "" else "\n")

end Fault

/-- The end of the command. -/
structure Outcome where
  exitCode : Nat
  standardOutput : String
  standardError : String
  deriving DecidableEq

namespace Outcome

/-- The outcome of a fault. -/
def ofFault (fault : Fault) : Outcome :=
  { exitCode := 1, standardOutput := "", standardError := fault.report }

/-- The outcome of an action on a source text: its result on a line, or the code frame of the
syntax error. -/
def ofResult (source : String) : Except SyntaxError String → Outcome
  | .ok result => { exitCode := 0, standardOutput := result ++ "\n", standardError := "" }
  | .error error =>
      { exitCode := 1, standardOutput := "", standardError := error.frame source }

end Outcome

/-- The result of an invocation on a source text. -/
def Invocation.apply (invocation : Invocation) (source : String) : Except SyntaxError String :=
  match invocation.action with
  | .parse => Script.describe source
  | .transform => Script.transform invocation.transform source
  | .ast => Script.exportText invocation.exporting source

/-- The texts that the command can read: files by their path, and standard input. What cannot be
read is none. -/
structure Inputs (m : Type → Type) where
  file : String → m (Option String)
  standardInput : m (Option String)

variable {m : Type → Type} [Monad m]

/-- Reads the options of an action from left to right. -/
def readOptions (inputs : Inputs m) (invocation : Invocation) :
    List String → m (Except Fault Invocation)
  | [] => return .ok invocation
  | ["--target"] => return .error .targetMissing
  | ["--config"] => return .error .configMissing
  | "--target" :: name :: rest =>
      match Settings.ofTarget? name with
      | some settings =>
          readOptions inputs
            { invocation with transform := { invocation.transform with settings } } rest
      | none => return .error (.unknownTarget name)
  | "--config" :: path :: rest => do
      match ← inputs.file path with
      | none => return .error (.configUnreadable path)
      | some text =>
          match (Json.parse? text).bind TransformOptions.ofJson? with
          | some transform => readOptions inputs { invocation with transform } rest
          | none => return .error (.configInvalid path)
  | argument :: rest =>
      if argument = "--minify" then
        readOptions inputs
          { invocation with transform := { invocation.transform with style := .minified } } rest
      else if argument = "--no-transform" then
        readOptions inputs
          { invocation with
            transform := { invocation.transform with settings := Settings.unchanged } } rest
      else if argument = "--pretty" then
        readOptions inputs
          { invocation with exporting := { invocation.exporting with pretty := true } } rest
      else if argument = "--legacy-spans" then
        readOptions inputs
          { invocation with
            exporting := { invocation.exporting with legacyContainerSpans := true } } rest
      else if argument = "-h" || argument = "--help" then return .error .usage
      else if "--".toList.isPrefixOf argument.toList then return .error (.unknownOption argument)
      else if invocation.file.isSome then return .error .severalFiles
      else readOptions inputs { invocation with file := some argument } rest

/-- Reads the arguments of the command. -/
def readArguments (inputs : Inputs m) : List String → m (Except Fault Invocation)
  | [] => return .error .usage
  | name :: rest =>
      match Action.ofName? name with
      | some action => readOptions inputs (Invocation.ofAction action) rest
      | none => return .error (.unknownCommand name)

/-- Reads the source text of an invocation. -/
def readSource (inputs : Inputs m) (invocation : Invocation) : m (Except Fault String) := do
  match invocation.file with
  | some path =>
      match ← inputs.file path with
      | some source => return .ok source
      | none => return .error (.fileUnreadable path)
  | none =>
      match ← inputs.standardInput with
      | some source => return .ok source
      | none => return .error .standardInputUnreadable

/-- Runs the command. -/
def run (inputs : Inputs m) (arguments : List String) : m Outcome := do
  match ← readArguments inputs arguments with
  | .error fault => return .ofFault fault
  | .ok invocation =>
      match ← readSource inputs invocation with
      | .error fault => return .ofFault fault
      | .ok source => return .ofResult source (invocation.apply source)

end Ecmascript.Command

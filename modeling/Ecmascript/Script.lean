import Ecmascript.Estree.Tree
import Ecmascript.Lowering
import Ecmascript.Parser.Program
import Ecmascript.Printer.Tree
import Ecmascript.Tree.Describe

/-!
# Scripts

The three things that are done with the source text of a script: describing its tree, lowering and
printing it, and exporting it. Each begins by parsing, and fails only if that fails.
-/

set_option autoImplicit false

namespace Ecmascript.Script

/-- The canonical text of the tree of a script. -/
def describe (source : String) : Except SyntaxError String :=
  (parse source).map Program.dump

/-- The script lowered and printed. -/
def transform (options : TransformOptions) (source : String) : Except SyntaxError String :=
  (parse source).map fun program => (program.lower options.settings).print options.style

/-- The text of the ESTree document of a script. -/
def exportText (options : ExportOptions) (source : String) : Except SyntaxError String :=
  (parse source).map (Program.exportText options)

end Ecmascript.Script

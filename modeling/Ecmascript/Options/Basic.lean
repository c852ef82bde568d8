/-!
# Options

What a caller can choose: which newer constructs are lowered, how a script is printed, and how it
is exported.
-/

set_option autoImplicit false

namespace Ecmascript

/-- Which constructs are lowered to older ones: powers to calls of `Math.pow`, and arrow functions
to function expressions. -/
structure Settings where
  lowerPower : Bool
  lowerArrow : Bool
  deriving DecidableEq

namespace Settings

/-- Everything is lowered. -/
def es5 : Settings :=
  { lowerPower := true, lowerArrow := true }

/-- Powers are lowered. -/
def es2015 : Settings :=
  { lowerPower := true, lowerArrow := false }

/-- Nothing is lowered. -/
def unchanged : Settings :=
  { lowerPower := false, lowerArrow := false }

/-- The settings without any choice. -/
def standard : Settings :=
  es2015

/-- The settings for an edition of the language, by its name. -/
def ofTarget? (name : String) : Option Settings :=
  if name = "es5" then some es5
  else if name = "es2015" || name = "es6" then some es2015
  else none

end Settings

/-- How a script is printed. -/
inductive Style where
  | pretty | minified
  deriving DecidableEq

/-- The style, by whether it is minified. -/
def Style.ofMinify (minify : Bool) : Style :=
  if minify then .minified else .pretty

/-- The choices for lowering and printing a script. -/
structure TransformOptions where
  style : Style
  settings : Settings
  deriving DecidableEq

/-- The options without any choice. -/
def TransformOptions.standard : TransformOptions :=
  { style := .pretty, settings := Settings.standard }

/-- The choices for exporting a script. With legacy container spans, some kinds of nodes have a
span of zero. -/
structure ExportOptions where
  legacyContainerSpans : Bool
  pretty : Bool
  deriving DecidableEq

/-- The options without any choice. -/
def ExportOptions.standard : ExportOptions :=
  { legacyContainerSpans := false, pretty := false }

end Ecmascript

import Schemata.Text.Lines

/-!
# Lines and blocks of code

Generated code is a list of lines and of blocks between braces; what is inside a
block stands four spaces further right. Laying it out is the only place where
braces and indentation are written.
-/

namespace Schemata.Access

/-- A line, an empty line, or lines between braces. -/
inductive Code where
  | line (text : String)
  | blank
  | block (head : String) (body : List Code) (tail : String)

/-- The spaces in front of a line at a level. -/
def indentation (level : Nat) : String := Text.repeated "    " level

mutual

/-- The text of a piece of code at a level. -/
def Code.write (level : Nat) : Code → String
  | .line text => indentation level ++ text ++ "\n"
  | .blank => "\n"
  | .block head body tail =>
    indentation level ++ head ++ " \x7b\n" ++ writeAll (level + 1) body ++
      indentation level ++ "\x7d" ++ tail ++ "\n"

/-- The text of pieces of code at a level. -/
def writeAll (level : Nat) : List Code → String
  | [] => ""
  | code :: rest => code.write level ++ writeAll level rest

end

/-- A block with nothing after its closing brace. -/
def braces (head : String) (body : List Code) : Code := .block head body ""

/-- Lines of code. -/
def codeLines (texts : List String) : List Code := texts.map .line

end Schemata.Access

import Schemata.Text.Quoted
import Schemata.Token.Scanner

/-!
# What can go wrong while a schema is read

A source is refused at the first of these. Each carries where it happened and what
was found, and `ReadError.message` is the only place that words them.
-/

namespace Schemata

/-- Ways to write an option that no expectation describes. -/
inductive Misuse where
  /-- Something that has no options was given one. -/
  | takesNoOptions (kind option : String)
  /-- An option that stands for a value was given options of its own. -/
  | optionsOnValue (option : String)
  /-- A flag was given a value or a group. -/
  | valueOnFlag (flag : String)
  /-- A text length that is not a positive 32-bit number. -/
  | lengthOutOfRange (length : Int)
  deriving DecidableEq, Repr

/-- The wording of a misuse. -/
def Misuse.message : Misuse → String
  | takesNoOptions kind option => kind ++ " takes no options, got " ++ Text.quoted option
  | optionsOnValue option => option ++ " does not take options"
  | valueOnFlag flag => flag ++ " is a flag and takes no value"
  | lengthOutOfRange length => "length must be a positive integer, got " ++ toString length

/-- Why a source could not be read as declarations. -/
inductive ReadError where
  | unreadable (problem : Unreadable)
  | expected (position : Position) (expected : List String) (found : String)
  | redefined (position : Position) (field kind : String) (previous : Position)
  | invalid (position : Position) (misuse : Misuse)
  deriving DecidableEq, Repr

namespace ReadError

/-- Where the source was refused. -/
def position : ReadError → Position
  | unreadable problem => problem.position
  | expected position _ _ => position
  | redefined position _ _ _ => position
  | invalid position _ => position

/-- One expectation stands alone, several are listed. -/
def describeExpected : List String → String
  | [single] => Text.quoted single
  | many => "one of " ++ Text.quotedList many

/-- The wording of an error. -/
def message : ReadError → String
  | unreadable problem =>
    problem.position.describe ++ ": unexpected character " ++ Text.quoted problem.text
  | expected position expectations found =>
    position.describe ++ ": expected " ++ describeExpected expectations ++
      ", got " ++ Text.quoted found
  | redefined position field kind previous =>
    position.describe ++ ": " ++ field ++ " already defined on " ++ kind ++
      ". previous definition at " ++ previous.describe
  | invalid position misuse => position.describe ++ ": " ++ misuse.message

end ReadError

end Schemata

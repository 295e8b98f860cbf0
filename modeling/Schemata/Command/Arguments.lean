/-!
# Command line arguments

Arguments are options and plain values. An option has a long name behind two
dashes and may have a short one, a letter behind one dash; letters of options
without a value can share a dash. A value follows its option, or stands behind an
equals sign or the letter. Behind two dashes alone there are only plain values.
Arguments are judged from left to right, so what is asked for by an option is only
answered if nothing before it is wrong.
-/

namespace Schemata.Command

/-- Why reading a command line ends before its end. -/
inductive Stop where
  /-- An argument is wrong. -/
  | misused
  /-- How to use the program is asked for. -/
  | help
  /-- The version of the program is asked for. -/
  | version
  deriving DecidableEq, Repr

/-- An option. -/
structure OptionRule where
  long : String
  short : Option Char := none
  takesValue : Bool := false
  repeatable : Bool := false
  /-- Whether the value may be empty. -/
  allowsEmpty : Bool := false
  /-- Why reading ends at this option, if it does. -/
  stop : Option Stop := none
  deriving DecidableEq, Repr

/-- Arguments that were read: options by their long name, and plain values. -/
structure Arguments where
  flags : List String := []
  values : List (String × String) := []
  plain : List String := []
  deriving DecidableEq, Repr

namespace Arguments

/-- Whether an option without a value is given. -/
def hasFlag (arguments : Arguments) (name : String) : Bool :=
  arguments.flags.contains name

/-- The values of an option, in order. -/
def valuesOf (arguments : Arguments) (name : String) : List String :=
  (arguments.values.filter fun entry => entry.1 = name).map (·.2)

/-- The first value of an option. -/
def value? (arguments : Arguments) (name : String) : Option String :=
  (arguments.valuesOf name).head?

/-- Take an option without a value, which may be given once. -/
def addFlag (arguments : Arguments) (rule : OptionRule) : Except Stop Arguments :=
  match rule.stop with
  | some stop => .error stop
  | none =>
    if arguments.hasFlag rule.long then .error .misused
    else .ok { arguments with flags := arguments.flags ++ [rule.long] }

/-- Take the value of an option. -/
def addValue (arguments : Arguments) (rule : OptionRule) (value : String) :
    Except Stop Arguments :=
  if value.isEmpty && !rule.allowsEmpty then .error .misused
  else if !rule.repeatable && !(arguments.valuesOf rule.long).isEmpty then .error .misused
  else .ok { arguments with values := arguments.values ++ [(rule.long, value)] }

/-- Take a plain value, which is a path, where there may be a limited number of them. -/
def addPlain (arguments : Arguments) (limit : Nat) (value : String) : Except Stop Arguments :=
  if limit ≤ arguments.plain.length || value.isEmpty then .error .misused
  else .ok { arguments with plain := arguments.plain ++ [value] }

end Arguments

/-- What is known after an argument with options: maybe an option still awaits its value. -/
structure OptionsRead where
  arguments : Arguments
  awaiting : Option OptionRule := none

/-- The option with some property, or a misuse. -/
def findRule (rules : List OptionRule) (property : OptionRule → Bool) : Except Stop OptionRule :=
  match rules.find? property with
  | some rule => .ok rule
  | none => .error .misused

/-- Read the letters behind one dash; an equals sign is the letter of no option. -/
def readLetters (rules : List OptionRule) : Arguments → List Char → Except Stop OptionsRead
  | arguments, [] => .ok { arguments }
  | arguments, c :: rest => do
    let rule ← findRule rules fun rule => rule.short = some c
    if rule.takesValue then
      match rest with
      | [] => .ok { arguments, awaiting := some rule }
      | '=' :: value => return { arguments := ← arguments.addValue rule (String.ofList value) }
      | value => return { arguments := ← arguments.addValue rule (String.ofList value) }
    else
      readLetters rules (← arguments.addFlag rule) rest

/-- Read what stands behind two dashes. -/
def readLong (rules : List OptionRule) (arguments : Arguments) (text : List Char) :
    Except Stop OptionsRead := do
  let name := String.ofList (text.takeWhile (· ≠ '='))
  let rule ← findRule rules fun rule => rule.long = name
  match text.dropWhile (· ≠ '='), rule.takesValue with
  | _ :: value, true => return { arguments := ← arguments.addValue rule (String.ofList value) }
  | _ :: _, false => .error .misused
  | [], true => .ok { arguments, awaiting := some rule }
  | [], false => return { arguments := ← arguments.addFlag rule }

/-- Read an argument with options; an argument without any gives nothing. -/
def readOptions? (rules : List OptionRule) (arguments : Arguments) (argument : String) :
    Option (Except Stop OptionsRead) :=
  match argument.toList with
  | '-' :: '-' :: long => some (readLong rules arguments long)
  | '-' :: c :: letters => some (readLetters rules arguments (c :: letters))
  | _ => none

/-- Whether an argument can be a value: a dash alone can, anything else with one in front not. -/
def isValue (argument : String) : Bool :=
  match argument.toList with
  | '-' :: _ :: _ => false
  | _ => true

/-- Read arguments with a limited number of plain values, after what was read already. -/
def readArguments (rules : List OptionRule) (limit : Nat) :
    Arguments → List String → Except Stop Arguments
  | arguments, [] => .ok arguments
  | arguments, argument :: rest =>
    if argument = "--" then
      rest.foldlM (fun arguments value => arguments.addPlain limit value) arguments
    else
      match readOptions? rules arguments argument with
      | none =>
        match arguments.addPlain limit argument with
        | .error stop => .error stop
        | .ok arguments => readArguments rules limit arguments rest
      | some (.error stop) => .error stop
      | some (.ok read) =>
        match read.awaiting, rest with
        | none, rest => readArguments rules limit read.arguments rest
        | some _, [] => .error .misused
        | some rule, value :: rest =>
          if isValue value then
            match read.arguments.addValue rule value with
            | .error stop => .error stop
            | .ok arguments => readArguments rules limit arguments rest
          else
            .error .misused

end Schemata.Command

namespace CodeGraph.CommandLine

/-- How an option is given: on its own, which stands for a value, or with a value after it. -/
inductive OptionKind where
  | flag (value : String)
  | valued
deriving Repr, DecidableEq

/-- An option by its names, and the key under which its value is known. Options with one key are
alternatives, and the last one given counts. -/
structure OptionSpec where
  key : String
  names : List String
  kind : OptionKind := .flag "yes"
deriving Repr, DecidableEq

/-- What a command accepts. -/
structure ArgumentSpec where
  options : List OptionSpec := []
  /-- Whether options may come after words. -/
  mixed : Bool := true
  /-- Whether unknown options count as words. -/
  passesUnknown : Bool := false
deriving Repr, DecidableEq

/-- Why arguments are not understood. -/
inductive UsageFault where
  | unknownOption (name : String)
  | noValue (name : String)
  | unexpectedValue (name : String)
  | badValue (name value : String)
  | missingWord (name : String)
  | extraWord (word : String)
  | noCommand
  | unknownCommand (name : String)
deriving Repr, DecidableEq

/-- The values of options and the words, each in the order given. -/
structure Arguments where
  options : List (String × String) := []
  words : List String := []
deriving Repr, DecidableEq

/-- What one argument with a dash gives: values of options, a word left of it, and the option that
takes the next argument as its value. -/
structure Reading where
  options : List (String × String) := []
  word : Option String := none
  pending : Option OptionSpec := none

namespace ArgumentSpec

/-- The option with a name. -/
def find? (spec : ArgumentSpec) (name : String) : Option OptionSpec :=
  spec.options.find? (·.names.contains name)

/-- Reads a row of short options. Unknown letters are collected where they may be passed over. -/
def readShort (spec : ArgumentSpec) (reading : Reading) (unknown : List Char) :
    List Char → Except UsageFault Reading
  | [] =>
    if unknown.isEmpty then .ok reading
    else .ok { reading with word := some (String.ofList ('-' :: unknown)) }
  | c :: rest =>
    let name := String.ofList ['-', c]
    match spec.find? name with
    | none =>
      if spec.passesUnknown then spec.readShort reading (unknown ++ [c]) rest
      else .error (.unknownOption name)
    | some option =>
      match option.kind with
      | .flag value =>
        spec.readShort { reading with options := reading.options ++ [(option.key, value)] }
          unknown rest
      | .valued =>
        let word := if unknown.isEmpty then none else some (String.ofList ('-' :: unknown))
        if rest.isEmpty then .ok { reading with word, pending := some option }
        else .ok { reading with
          word, options := reading.options ++ [(option.key, String.ofList rest)] }

/-- A long option and the value behind an equals sign. -/
def splitLong (chars : List Char) : String × Option String :=
  match chars.dropWhile (· != '=') with
  | [] => (String.ofList chars, none)
  | _ :: value => (String.ofList (chars.takeWhile (· != '=')), some (String.ofList value))

/-- Reads an argument that starts with a dash and is longer than that. -/
def read (spec : ArgumentSpec) (argument : List Char) : Except UsageFault Reading :=
  match argument with
  | '-' :: '-' :: _ =>
    let (name, value?) := splitLong argument
    match spec.find? name, value? with
    | none, _ =>
      if spec.passesUnknown then .ok { word := some (String.ofList argument) }
      else .error (.unknownOption name)
    | some option, some value =>
      if option.kind == .valued then .ok { options := [(option.key, value)] }
      else .error (.unexpectedValue name)
    | some option, none =>
      match option.kind with
      | .flag value => .ok { options := [(option.key, value)] }
      | .valued => .ok { pending := some option }
  | letters => spec.readShort {} [] (letters.drop 1)

/-- Whether an argument is an option. -/
def isOption (argument : String) : Bool :=
  match argument.toList with
  | '-' :: _ :: _ => true
  | _ => false

/-- Reads arguments, adding to those read before. -/
def scan (spec : ArgumentSpec) (found : Arguments) : List String → Except UsageFault Arguments
  | [] => .ok found
  | argument :: rest =>
    if argument == "--" then .ok { found with words := found.words ++ rest }
    else if isOption argument then
      match spec.read argument.toList with
      | .error fault => .error fault
      | .ok reading =>
        let found : Arguments := {
          options := found.options ++ reading.options
          words := found.words ++ reading.word.toList }
        match reading.pending, rest with
        | none, rest => spec.scan found rest
        | some option, value :: rest =>
          spec.scan { found with options := found.options ++ [(option.key, value)] } rest
        | some option, [] => .error (.noValue option.key)
    else if spec.mixed then spec.scan { found with words := found.words ++ [argument] } rest
    else .ok { found with words := found.words ++ argument :: rest }

end ArgumentSpec

namespace Arguments

/-- The value of an option, the last one given. -/
def get? (arguments : Arguments) (key : String) : Option String :=
  List.lookup key arguments.options.reverse

/-- Whether the last option with a key stands for yes. -/
def isOn (arguments : Arguments) (key : String) (default : Bool := false) : Bool :=
  ((arguments.get? key).map (· == "yes")).getD default

end Arguments

end CodeGraph.CommandLine

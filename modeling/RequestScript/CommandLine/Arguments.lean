import RequestScript.Text.Split

/-!
# Arguments

The arguments of the command: an optional file, and options in any order. A long option takes
its value from the same argument after an equals sign, or from the next one; a short option
takes the rest of its own argument, or the next one. After two dashes alone everything is a
file.
-/

namespace RequestScript.CommandLine

open Text

/-- What the command is asked to do. -/
structure Arguments where
  /-- The request script. -/
  file : Option String := none
  /-- The identifier of the request to run. -/
  id : Option String := none
  /-- The name of the request to run. -/
  name : Option String := none
  /-- The configuration file. -/
  config : Option String := none
  /-- The environment to activate. -/
  environment : Option String := none
  /-- Session variables, each as `key=value`. -/
  assignments : List String := []
  /-- Run every request. -/
  all : Bool := false
  /-- List the requests instead of running one. -/
  list : Bool := false
  /-- Show what would be sent instead of sending it. -/
  resolve : Bool := false
  /-- Show headers and sizes. -/
  verbose : Bool := false
  /-- Show bodies alone. -/
  raw : Bool := false
  /-- Show the history instead of running anything. -/
  history : Bool := false
  /-- Show what the program logs. -/
  debug : Bool := false
  /-- Show how the command is used. -/
  help : Bool := false

/-- What an option does to the arguments. -/
inductive Setting where
  /-- A switch that is turned on. -/
  | switch (apply : Arguments → Arguments)
  /-- An option with a value. -/
  | valued (apply : String → Arguments → Arguments)

/-- An option with its names. -/
structure Argument where
  /-- The letter of the short form, if there is one. -/
  letter : Option Char
  /-- The name of the long form. -/
  word : String
  /-- What the option is for. -/
  description : String
  /-- What the option does. -/
  setting : Setting

/-- The options of the command. -/
def options : List Argument :=
  [⟨some 'i', "id", "Run the request with this identifier.",
      .valued fun value arguments => { arguments with id := some value }⟩,
    ⟨some 'n', "name", "Run the request with this name.",
      .valued fun value arguments => { arguments with name := some value }⟩,
    ⟨none, "all", "Run every request of the file.",
      .switch fun arguments => { arguments with all := true }⟩,
    ⟨some 'c', "config", "Take the settings from this file.",
      .valued fun value arguments => { arguments with config := some value }⟩,
    ⟨some 'v', "var", "Set a session variable, as key=value.",
      .valued fun value arguments =>
        { arguments with assignments := arguments.assignments ++ [value] }⟩,
    ⟨some 'e', "env", "Activate this environment.",
      .valued fun value arguments => { arguments with environment := some value }⟩,
    ⟨none, "list", "List the requests of the file.",
      .switch fun arguments => { arguments with list := true }⟩,
    ⟨none, "resolve", "Show the request without sending it.",
      .switch fun arguments => { arguments with resolve := true }⟩,
    ⟨none, "verbose", "Show headers and sizes too.",
      .switch fun arguments => { arguments with verbose := true }⟩,
    ⟨none, "raw", "Show the body alone.",
      .switch fun arguments => { arguments with raw := true }⟩,
    ⟨none, "history", "Show the run history.",
      .switch fun arguments => { arguments with history := true }⟩,
    ⟨none, "debug", "Show what is logged.",
      .switch fun arguments => { arguments with debug := true }⟩,
    ⟨none, "help", "Show this message.",
      .switch fun arguments => { arguments with help := true }⟩]

/-- What the option with a long name does. -/
def wordSetting? (word : String) : Option Setting :=
  (options.find? (·.word == word)).map (·.setting)

/-- What the option with a short name does. -/
def letterSetting? (letter : Char) : Option Setting :=
  (options.find? (·.letter == some letter)).map (·.setting)

/-- What has been read of the arguments. -/
structure Reading where
  /-- What the options say. -/
  arguments : Arguments := {}
  /-- The arguments that are no options. -/
  files : List String := []

/-- The reading with a change of what the options say. -/
def Reading.change (reading : Reading) (f : Arguments → Arguments) : Reading :=
  { reading with arguments := f reading.arguments }

/-- An argument that starts an option. -/
inductive ArgumentKind where
  /-- The mark after which everything is a file. -/
  | separator
  /-- A long option, with the value after its equals sign. -/
  | word (name : String) (value : Option String)
  /-- Short options. -/
  | letters (letters : List Char)
  /-- No option. -/
  | file

/-- What kind of argument a text is. -/
def ArgumentKind.ofArgument (argument : String) : ArgumentKind :=
  match argument.toList with
  | ['-', '-'] => .separator
  | '-' :: '-' :: rest =>
    match cut? '=' rest with
    | some (name, value) => .word (String.ofList name) (some (String.ofList value))
    | none => .word (String.ofList rest) none
  | '-' :: letter :: rest => .letters (letter :: rest)
  | _ => .file

/-- Why arguments cannot be read. -/
inductive ArgumentError where
  /-- No option has the name. -/
  | unknownOption
  /-- There is more than one file. -/
  | extraFile
  /-- A switch is given a value. -/
  | unexpectedValue (option : String)
  /-- An option that takes a value comes last, without one. -/
  | missingValue (option : String)
  deriving DecidableEq

/-- What is said about an error in the arguments; about names and files it is how the command is
used. -/
def ArgumentError.message? : ArgumentError → Option String
  | .unknownOption | .extraFile => none
  | .unexpectedValue option => some ("Option \x27" ++ option ++ "\x27 does not take a value.")
  | .missingValue option => some ("Option \x27" ++ option ++ "\x27 requires an argument.")

/-- Takes the argument after an option as its value. -/
def takeNext (option : String) (next : Option String) (reading : Reading)
    (apply : String → Arguments → Arguments) : Except ArgumentError (Reading × Bool) :=
  match next with
  | some value => .ok (reading.change (apply value), true)
  | none => .error (.missingValue option)

/-- Reads short options from one argument; `next` is the argument after it. What comes back says
also whether that one was taken as a value. -/
def readLetters (next : Option String) (reading : Reading) :
    List Char → Except ArgumentError (Reading × Bool)
  | [] => .ok (reading, false)
  | letter :: rest =>
    match letterSetting? letter with
    | none => .error .unknownOption
    | some (.switch apply) => readLetters next (reading.change apply) rest
    | some (.valued apply) =>
      if rest.isEmpty then takeNext ("-" ++ letter.toString) next reading apply
      else .ok (reading.change (apply (String.ofList rest)), false)

/-- Reads a long option; `next` is the argument after it. What comes back says also whether that
one was taken as a value. -/
def readWord (next : Option String) (reading : Reading) (name : String)
    (value : Option String) : Except ArgumentError (Reading × Bool) :=
  match wordSetting? name, value with
  | none, _ => .error .unknownOption
  | some (.switch apply), none => .ok (reading.change apply, false)
  | some (.switch _), some _ => .error (.unexpectedValue ("--" ++ name))
  | some (.valued apply), some value => .ok (reading.change (apply value), false)
  | some (.valued apply), none => takeNext ("--" ++ name) next reading apply

/-- Reads arguments, up to the first that cannot be read. -/
def readAll (reading : Reading) : List String → Except ArgumentError Reading
  | [] => .ok reading
  | [argument] =>
    match ArgumentKind.ofArgument argument with
    | .separator => .ok reading
    | .file => .ok { reading with files := reading.files ++ [argument] }
    | .word name value => (readWord none reading name value).map (·.1)
    | .letters letters => (readLetters none reading letters).map (·.1)
  | argument :: next :: rest =>
    let goOn (read : Except ArgumentError (Reading × Bool)) : Except ArgumentError Reading :=
      match read with
      | .ok (reading, true) => readAll reading rest
      | .ok (reading, false) => readAll reading (next :: rest)
      | .error error => .error error
    match ArgumentKind.ofArgument argument with
    | .separator => .ok { reading with files := reading.files ++ next :: rest }
    | .file => readAll { reading with files := reading.files ++ [argument] } (next :: rest)
    | .word name value => goOn (readWord (some next) reading name value)
    | .letters letters => goOn (readLetters (some next) reading letters)

/-- The arguments of the command. There is at most one file, but where help is asked for no more
than the options count. -/
def Arguments.read (arguments : List String) : Except ArgumentError Arguments := do
  let reading ← readAll {} arguments
  match reading.files with
  | [] => return reading.arguments
  | [file] => return { reading.arguments with file := some file }
  | _ => if reading.arguments.help then return reading.arguments else throw .extraFile

end RequestScript.CommandLine

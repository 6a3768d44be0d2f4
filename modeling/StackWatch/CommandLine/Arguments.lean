/-!
# Arguments

The command line is `[-c FILE] run [--pretty]` or `[-c FILE] catalog`. `parse` reads it, with a file
that the environment names in second place and a default in third. What cannot be read is a `Usage`,
and so is a question for help.

The value of an option stands after it or, with or without an equals sign, in the same argument. An
option whose value stands in an argument of its own is settled only when the next option comes or
the line ends, so a fault of a command in between counts before a fault of the value.
-/

namespace StackWatch.CommandLine

/-- What is to be done. -/
inductive Command where
  /-- run the check once and print the report, over several lines if wanted -/
  | run (pretty : Bool)
  /-- print the endpoints of the components -/
  | catalog
  deriving DecidableEq, Inhabited

/-- What a command line asks for. -/
structure Invocation where
  command : Command
  /-- path of the configuration file -/
  config : String
  deriving DecidableEq, Inhabited

/-- Why a command line is not carried out. -/
inductive Usage where
  /-- help is asked for -/
  | help
  /-- nothing is asked for -/
  | nothing
  /-- there are options but no command -/
  | missingCommand
  | unknownCommand
  | unknownArgument
  /-- the value of an option is missing or empty -/
  | invalidValue
  /-- an option is given twice -/
  | repeated
  /-- a switch is given a value -/
  | needlessValue
  deriving DecidableEq, Inhabited

/-- The configuration file when none is named. -/
def defaultConfig : String := "/etc/os-controller/conf.toml"

/-- What one argument is by its form. -/
inductive Argument where
  /-- two hyphens alone: only words follow -/
  | escape
  /-- two hyphens and a name, perhaps with a value -/
  | long (name : String) (value : Option String)
  /-- a hyphen, a letter and whatever is attached to it -/
  | short (letter : Char) (attached : List Char)
  | word (text : String)
  deriving DecidableEq, Inhabited

/-- The form of an argument. -/
def Argument.ofText (text : String) : Argument :=
  match text.toList with
  | ['-', '-'] => .escape
  | '-' :: '-' :: rest =>
    let value := match rest.dropWhile (· != '=') with
      | [] => none
      | _ :: value => some (String.ofList value)
    .long (String.ofList (rest.takeWhile (· != '='))) value
  | '-' :: letter :: attached => .short letter attached
  | _ => .word text

/-- What is wrong with an option that is neither the configuration's nor a known switch. -/
def strangeOption : Argument → Usage
  | .long "help" none => .help
  | .long "help" (some _) => .needlessValue
  | .short 'h' _ => .help
  | _ => .unknownArgument

/-! ## Commands -/

/-- Whether words follow that no command takes. -/
def noWords : List String → Except Usage Unit
  | [] => .ok ()
  | _ => .error .unknownArgument

/-- The rest of a line after `run`. -/
def runArguments (pretty : Bool) : List String → Except Usage Bool
  | [] => .ok pretty
  | text :: rest =>
    match Argument.ofText text with
    | .escape => (noWords rest).map fun _ => pretty
    | .long "pretty" none => if pretty then .error .repeated else runArguments true rest
    | .long "pretty" (some _) => .error .needlessValue
    | argument => .error (strangeOption argument)

/-- The rest of a line after `catalog`. -/
def catalogArguments : List String → Except Usage Unit
  | [] => .ok ()
  | text :: rest =>
    match Argument.ofText text with
    | .escape => noWords rest
    | argument => .error (strangeOption argument)

/-- The rest of a line after `help`: names of commands. -/
def helpArguments : List String → Usage
  | [] | ["run"] | ["catalog"] | ["help"] => .help
  | _ => .unknownCommand

/-- A command by its name, with the rest of the line. -/
def command (name : String) (rest : List String) : Except Usage Command :=
  match name with
  | "run" => (runArguments false rest).map .run
  | "catalog" => (catalogArguments rest).map fun _ => .catalog
  | "help" => .error (helpArguments rest)
  | _ => .error .unknownCommand

/-- What is wrong with a word after two hyphens, where no command is expected. -/
def strayWord (text : String) : Usage :=
  if ["run", "catalog", "help"].contains text then .unknownArgument else .unknownCommand

/-! ## Options -/

/-- The option that names the configuration file, as far as it has been read. -/
structure Options where
  /-- the value that is accepted -/
  settled : Option String
  /-- a value in an argument of its own, not yet looked at -/
  pending : Option String
  deriving DecidableEq, Inhabited

namespace Options

/-- Accepts a value. -/
def accept (o : Options) (value : String) : Except Usage Options :=
  if o.settled.isSome then .error .repeated
  else if value = "" then .error .invalidValue
  else .ok ⟨some value, none⟩

/-- Accepts the value that is pending. -/
def settle (o : Options) : Except Usage Options :=
  match o.pending with
  | none => .ok o
  | some value => ({ o with pending := none } : Options).accept value

end Options

/-- Whether an argument is an option that the line may begin with. -/
def isOption : Argument → Bool
  | .long "config" _ | .short 'c' _ | .long "help" none | .short 'h' _ => true
  | _ => false

/-- What is wrong when the value of an option should come, and something else or nothing does. -/
def missingValue : List String → Usage
  | [] => .invalidValue
  | text :: rest =>
    match Argument.ofText text with
    | .escape =>
      match rest with
      | [] => .invalidValue
      | text :: _ => strayWord text
    | argument => if isOption argument then .invalidValue else strangeOption argument

/-- Reads options up to the command, and the command. -/
def readOptions (o : Options) : List String → Except Usage (Options × Option Command)
  | [] => .ok (o, none)
  | text :: rest =>
    match Argument.ofText text with
    | .word name => (command name rest).map fun c => (o, some c)
    | .escape =>
      match rest with
      | [] => .ok (o, none)
      | text :: _ => .error (strayWord text)
    | .long "config" (some value) => attached value rest
    | .short 'c' ('=' :: value) => attached (String.ofList value) rest
    | .short 'c' (c :: value) => attached (String.ofList (c :: value)) rest
    | .long "config" none | .short 'c' [] =>
      match o.settle with
      | .error e => .error e
      | .ok o =>
        match rest with
        | [] => .error (missingValue [])
        | text :: rest =>
          match Argument.ofText text with
          | .word value => readOptions { o with pending := some value } rest
          | _ => .error (missingValue (text :: rest))
    | argument =>
      if isOption argument then
        match o.settle with
        | .error e => .error e
        | .ok _ => .error (strangeOption argument)
      else .error (strangeOption argument)
where
  /-- Goes on after an option with its value in the same argument. -/
  attached (value : String) (rest : List String) : Except Usage (Options × Option Command) :=
    match o.settle with
    | .error e => .error e
    | .ok o =>
      match o.accept value with
      | .error e => .error e
      | .ok o => readOptions o rest

/-- Reads a command line, given what the environment names as the configuration file. -/
def parse (environment : Option String) (arguments : List String) : Except Usage Invocation :=
  match readOptions ⟨none, none⟩ arguments with
  | .error e => .error e
  | .ok (o, command) =>
    match o.settle with
    | .error e => .error e
    | .ok o =>
      match o.settled.or environment with
      | some "" => .error .invalidValue
      | config =>
        match command with
        | some command => .ok ⟨command, config.getD defaultConfig⟩
        | none => .error (if config.isSome then .missingCommand else .nothing)

end StackWatch.CommandLine

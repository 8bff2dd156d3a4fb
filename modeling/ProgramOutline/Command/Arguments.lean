/-!
# Command lines

A command line names one of four commands. The options for the configuration and the log file may
stand before or after the command, each once on either side; the one after the command counts. An
option takes the next argument, or what is attached to it, as its value. Anything that starts with
a hyphen is an option until `--`.
-/

namespace ProgramOutline.Command

/-- What to do. -/
inductive Action where
  /-- Print the outline of a file. -/
  | outline (file : String) (json : Bool)
  /-- Print the line of a function. -/
  | goto (file function : String)
  /-- Print the outline of a file whenever it changes. -/
  | watch (file : String) (json : Bool)
  /-- Write the default configuration. -/
  | initConfig (force : Bool)
  deriving DecidableEq

/-- The document that an action is about. -/
def Action.file? : Action → Option String
  | outline file _ => some file
  | goto file _ => some file
  | watch file _ => some file
  | initConfig _ => none

/-- A command with its options. -/
structure Invocation where
  config : Option String
  log : Option String
  action : Action
  deriving DecidableEq

/-- What a command line asks for. -/
inductive Request where
  | run (invocation : Invocation)
  | version
  | help
  | misuse
  deriving DecidableEq

/-- The options and arguments read so far on one side of the command. -/
structure Options where
  config : Option String := none
  log : Option String := none
  /-- Was the switch of the command given? -/
  switched : Bool := false
  /-- The arguments, last first. -/
  arguments : List String := []

/-- How reading one side of a command line ends. -/
inductive Ending where
  /-- At the end of the line. -/
  | done (options : Options)
  /-- At the first argument, where that names a command. -/
  | command (options : Options) (name : String) (rest : List String)
  | version
  | help
  | misuse

namespace Options

/-- Sets the option with the given letter to a path, once. -/
def set? (options : Options) (letter : Char) (path : String) : Option Options :=
  if path = "" then none
  else match letter with
    | 'c' => if options.config.isSome then none else some { options with config := some path }
    | 'l' => if options.log.isSome then none else some { options with log := some path }
    | _ => none

end Options

/-- The letter of an option with a value. -/
def optionLetter? (name : String) : Option Char :=
  match name with
  | "config" => some 'c'
  | "log" => some 'l'
  | _ => none

/-- Does an argument look like an option? -/
def isOption (argument : String) : Bool :=
  match argument.toList with
  | '-' :: _ :: _ => true
  | _ => false

/-- A long option: its name, and the value after an equals sign. -/
def longOption (text : List Char) : String × Option String :=
  let name := String.ofList (text.takeWhile (· ≠ '='))
  match text.dropWhile (· ≠ '=') with
  | [] => (name, none)
  | _ :: value => (name, some (String.ofList value))

/-- A value attached to a short option; an equals sign in front of it does not count. -/
def attached (text : List Char) : String :=
  match text with
  | '=' :: value => String.ofList value
  | value => String.ofList value

/-- Reads one side of a command line. `switch` is the name of the command's switch, `limit` the
    number of its arguments; before the command, which is the first argument, both are missing. -/
def readSide (switch : Option String) (limit : Option Nat) (options : Options) :
    List String → Ending
  | [] => .done options
  | argument :: rest =>
    match argument.toList with
    | ['-', '-'] =>
      match limit with
      | none => .misuse
      | some limit =>
        if options.arguments.length + rest.length ≤ limit then
          .done { options with arguments := rest.reverse ++ options.arguments }
        else .misuse
    | '-' :: '-' :: text =>
      match longOption text, rest with
      | ("help", none), _ => .help
      | ("version", none), _ => if limit.isNone then .version else .misuse
      | (name, some value), rest =>
        match (optionLetter? name).bind (fun letter => options.set? letter value) with
        | some options => readSide switch limit options rest
        | none => .misuse
      | (name, none), rest =>
        if switch = some name then
          if options.switched then .misuse
          else readSide switch limit { options with switched := true } rest
        else match optionLetter? name, rest with
          | some letter, value :: rest =>
            if isOption value then .misuse
            else match options.set? letter value with
              | some options => readSide switch limit options rest
              | none => .misuse
          | _, _ => .misuse
    | '-' :: letter :: text =>
      if letter = 'h' then .help
      else if letter = 'V' then if limit.isNone then .version else .misuse
      else if text.isEmpty then
        match rest with
        | value :: rest =>
          if isOption value then .misuse
          else match options.set? letter value with
            | some options => readSide switch limit options rest
            | none => .misuse
        | [] => .misuse
      else match options.set? letter (attached text) with
        | some options => readSide switch limit options rest
        | none => .misuse
    | _ =>
      match limit with
      | none => .command options argument rest
      | some limit =>
        if options.arguments.length < limit then
          readSide switch (some limit)
            { options with arguments := argument :: options.arguments } rest
        else .misuse

/-- The switch of a command and the number of its arguments. -/
def shape? (name : String) : Option (Option String × Nat) :=
  match name with
  | "outline" => some (some "json", 1)
  | "goto" => some (none, 2)
  | "watch" => some (some "json", 1)
  | "init-config" => some (some "force", 0)
  | _ => none

/-- The action of a command with its arguments. A file must have a name. -/
def action? (name : String) (options : Options) : Option Action :=
  match name, options.arguments.reverse with
  | "outline", [file] => if file = "" then none else some (.outline file options.switched)
  | "goto", [file, function] => if file = "" then none else some (.goto file function)
  | "watch", [file] => if file = "" then none else some (.watch file options.switched)
  | "init-config", [] => some (.initConfig options.switched)
  | _, _ => none

/-- Reads a command line. -/
def parse (arguments : List String) : Request :=
  match readSide none none {} arguments with
  | .version => .version
  | .help => .help
  | .misuse => .misuse
  | .done _ => .misuse
  | .command outer name rest =>
    if name = "help" then .help
    else match shape? name with
      | none => .misuse
      | some (switch, limit) =>
        match readSide switch (some limit) {} rest with
        | .help => .help
        | .done inner =>
          match action? name inner with
          | some action => .run ⟨inner.config.or outer.config, inner.log.or outer.log, action⟩
          | none => .misuse
        | _ => .misuse

end ProgramOutline.Command

/-!
# Arguments

The command line: `scan` and `run` take a scene, `inspect` takes one or more records.  Options may
stand anywhere after the command, with their value in the same argument or in the next.
-/

namespace DeviceBus.Cli

/-- How tables are printed. -/
inductive Format where
  | table
  | json
  deriving DecidableEq, Repr

/-- What `run` is asked to do. -/
structure RunOptions where
  scene : String
  ticks : Nat
  /-- The record to start from. -/
  resume : Option String
  /-- Where to save the record. -/
  record : Option String
  /-- What is typed after boot, instead of the scene's input. -/
  input : Option String
  verbose : Bool
  deriving DecidableEq, Repr

/-- A command. -/
inductive Command where
  | help
  | version
  | scan (scene : String) (format : Format)
  | run (options : RunOptions)
  | inspect (records : List String) (format : Format)
  deriving DecidableEq, Repr

/-! ## Options -/

/-- An option of a command. -/
structure OptionSpec where
  long : String
  short : Option Char
  takesValue : Bool
  /-- Whether a value is acceptable. -/
  accepts : String → Bool

/-- The digits of a number, after a sign if it has one. -/
def splitSign (s : String) : Bool × List Char :=
  match s.toList with
  | '-' :: digits => (true, digits)
  | '+' :: digits => (false, digits)
  | digits => (false, digits)

/-- A number of 32 bits without a sign.  A zero may carry one. -/
def word32? (s : String) : Option Nat :=
  let (negative, digits) := splitSign s
  if digits.isEmpty || digits.any (!·.isDigit) then none
  else
    let n := digits.foldl (fun n c => 10 * n + (c.toNat - '0'.toNat)) 0
    if n < UInt32.size && (!negative || n = 0) then some n else none

/-- A format by its name. -/
def format? : String → Option Format
  | "table" => some .table
  | "json" => some .json
  | _ => none

/-- Whether a text can be the name of a file. -/
def isPath (s : String) : Bool := s ≠ ""

/-- The option for help, which every command has. -/
def helpOption : OptionSpec := ⟨"help", some 'h', false, fun _ => false⟩

/-- The option for the format of tables. -/
def formatOption : OptionSpec := ⟨"format", none, true, fun s => (format? s).isSome⟩

/-- The options of `run`. -/
def runOptions : List OptionSpec := [
  helpOption,
  ⟨"ticks", some 'n', true, fun s => (word32? s).isSome⟩,
  ⟨"resume", none, true, isPath⟩,
  ⟨"record", none, true, isPath⟩,
  ⟨"input", none, true, fun _ => true⟩,
  ⟨"verbose", some 'v', false, fun _ => false⟩]

/-- The options of `scan` and `inspect`. -/
def tableOptions : List OptionSpec := [helpOption, formatOption]

/-! ## Reading -/

/-- The arguments read so far. -/
structure Parsed where
  /-- Options by their long name, with their value. -/
  options : List (String × String)
  positionals : List String
  deriving DecidableEq, Repr

/-- Why arguments are not read to their end. -/
inductive Stop where
  /-- They are wrong. -/
  | usage
  /-- Help is asked for. -/
  | help
  deriving DecidableEq, Repr

/-- Adds an option, which may not be there yet. -/
def Parsed.set (p : Parsed) (spec : OptionSpec) (value : String) : Except Stop Parsed :=
  if spec.long = "help" then .error .help
  else if (p.options.lookup spec.long).isSome then .error .usage
  else if spec.takesValue && !spec.accepts value then .error .usage
  else .ok { p with options := p.options ++ [(spec.long, value)] }

/-- Splits at the first equals sign. -/
def splitEquals (cs : List Char) : String × Option String :=
  let name := String.ofList (cs.takeWhile (· ≠ '='))
  match cs.dropWhile (· ≠ '=') with
  | [] => (name, none)
  | _ :: value => (name, some (String.ofList value))

/-- Whether an argument is an option, and so cannot be the value of the option before it. -/
def isOption (argument : String) : Bool :=
  match argument.toList with
  | '-' :: _ :: _ => true
  | _ => false

/-- The flags in one argument, up to one that takes a value; the value is the rest of the argument.
The answer tells which option still waits for its value. -/
def shortOptions (specs : List OptionSpec) (p : Parsed) :
    List Char → Except Stop (Parsed × Option OptionSpec)
  | [] => .ok (p, none)
  | c :: rest =>
    match specs.find? (·.short = some c) with
    | none => .error .usage
    | some spec =>
      if spec.takesValue then
        match rest with
        | [] => .ok (p, some spec)
        | '=' :: value => (p.set spec (String.ofList value)).map fun p => (p, none)
        | value => (p.set spec (String.ofList value)).map fun p => (p, none)
      else
        match p.set spec "" with
        | .error stop => .error stop
        | .ok p => shortOptions specs p rest

/-- An option given by its long name. -/
def longOption (specs : List OptionSpec) (p : Parsed) (cs : List Char) :
    Except Stop (Parsed × Option OptionSpec) :=
  let (name, value) := splitEquals cs
  match specs.find? (·.long = name), value with
  | none, _ => .error .usage
  | some spec, some value =>
    if spec.takesValue then (p.set spec value).map fun p => (p, none) else .error .usage
  | some spec, none =>
    if spec.takesValue then .ok (p, some spec) else (p.set spec "").map fun p => (p, none)

/-- Adds an argument that is no option; there is room for `most` of them. -/
def Parsed.addPositional (p : Parsed) (most : Nat) (argument : String) : Except Stop Parsed :=
  if p.positionals.length < most && isPath argument then
    .ok { p with positionals := p.positionals ++ [argument] }
  else .error .usage

/-- One argument, and the option that waits for its value after it. -/
def readArgument (specs : List OptionSpec) (most : Nat) (p : Parsed) (waiting : Option OptionSpec)
    (argument : String) : Except Stop (Parsed × Option OptionSpec) :=
  if isOption argument then
    if waiting.isSome then .error .usage
    else
      match argument.toList with
      | '-' :: '-' :: name => longOption specs p name
      | _ :: flags => shortOptions specs p flags
      | [] => .error .usage
  else
    match waiting with
    | some spec => (p.set spec argument).map fun p => (p, none)
    | none => (p.addPositional most argument).map fun p => (p, none)

/-- Arguments none of which is an option. -/
def readPositionals (most : Nat) (p : Parsed) : List String → Except Stop Parsed
  | [] => .ok p
  | argument :: rest =>
    match p.addPositional most argument with
    | .error stop => .error stop
    | .ok p => readPositionals most p rest

/-- The arguments of a command. -/
def readArguments (specs : List OptionSpec) (most : Nat) (p : Parsed) (waiting : Option OptionSpec) :
    List String → Except Stop Parsed
  | [] => if waiting.isSome then .error .usage else .ok p
  | "--" :: rest => if waiting.isSome then .error .usage else readPositionals most p rest
  | argument :: rest =>
    match readArgument specs most p waiting argument with
    | .error stop => .error stop
    | .ok (p, waiting) => readArguments specs most p waiting rest

/-! ## Commands -/

/-- The format asked for. -/
def Parsed.format (p : Parsed) : Format := ((p.options.lookup "format").bind format?).getD .table

/-- The arguments of `scan`. -/
def scanCommand (p : Parsed) : Except Stop Command :=
  match p.positionals with
  | [scene] => .ok (.scan scene p.format)
  | _ => .error .usage

/-- The arguments of `run`. -/
def runCommand (p : Parsed) : Except Stop Command :=
  match p.positionals with
  | [scene] => .ok (.run {
      scene
      ticks := ((p.options.lookup "ticks").bind word32?).getD 20
      resume := p.options.lookup "resume"
      record := p.options.lookup "record"
      input := p.options.lookup "input"
      verbose := (p.options.lookup "verbose").isSome })
  | _ => .error .usage

/-- The arguments of `inspect`. -/
def inspectCommand (p : Parsed) : Except Stop Command :=
  match p.positionals with
  | [] => .error .usage
  | records => .ok (.inspect records p.format)

/-- Reads the arguments of a command. -/
def readCommand (specs : List OptionSpec) (most : Nat) (command : Parsed → Except Stop Command)
    (arguments : List String) : Except Stop Command :=
  match readArguments specs most ⟨[], []⟩ none arguments with
  | .error stop => .error stop
  | .ok p => command p

/-- The command that the arguments give. -/
def Command.ofArguments : List String → Except Stop Command
  | "--version" :: _ | "-V" :: _ => .ok .version
  | "--help" :: _ | "-h" :: _ | ["help"] => .ok .help
  | "scan" :: rest => readCommand tableOptions 1 scanCommand rest
  | "run" :: rest => readCommand runOptions 1 runCommand rest
  | "inspect" :: rest => readCommand tableOptions rest.length inspectCommand rest
  | _ => .error .usage

end DeviceBus.Cli

/-!
# The command line

There is one command, `analyze`, besides `help`. Options of it may be written `--name value`,
`--name=value`, `-n value`, `-nvalue` and `-n=value`, and short ones without a value may be joined.
After `--` nothing is an option any more.

The value of an option is checked only when the next argument is accepted, so an unknown argument is
noticed before a missing value in front of it.
-/

namespace GoSurvey

/-- What a command line asks for. -/
structure Options where
  path : String
  config : Option String := none
  format : String := "pretty"
  summary : Bool := false
  verbose : Bool := false
deriving DecidableEq, Repr, Inhabited

/-- Why a command line asks for no survey. -/
inductive Usage where
  | help
  | version
  | missingCommand
  | missingArgument
  | unknownCommand
  | unknownArgument
  | invalidValue
  | unexpectedValue
  | repeatedArgument
deriving DecidableEq, Repr, Inhabited

/-- The exit code of a program that ends without a survey: asking for help is no failure. -/
def Usage.exitCode : Usage → Nat
  | .help | .version => 0
  | _ => 2

namespace Options

/-- A value that the command line can give. -/
inductive Slot where
  | path
  | config
  | format
deriving DecidableEq, Repr

/-- An option without a value. -/
inductive Switch where
  | help
  | summary
  | verbose
deriving DecidableEq, Repr

/-- The options by their long names. -/
def long? : String → Option (Slot ⊕ Switch)
  | "config" => some (.inl .config)
  | "format" => some (.inl .format)
  | "help" => some (.inr .help)
  | "summary" => some (.inr .summary)
  | "verbose" => some (.inr .verbose)
  | _ => none

/-- The options by their short names. -/
def short? : Char → Option (Slot ⊕ Switch)
  | 'c' => some (.inl .config)
  | 'f' => some (.inl .format)
  | 'h' => some (.inr .help)
  | 's' => some (.inr .summary)
  | 'v' => some (.inr .verbose)
  | _ => none

/-- What has been read of a command line. -/
structure Draft where
  path : Option String := none
  config : Option String := none
  format : Option String := none
  summary : Bool := false
  verbose : Bool := false
  /-- A value that is not checked yet, or that is still to come. -/
  pending : Option (Slot × Option String) := none
  /-- Whether the next argument is the pending value. -/
  awaiting : Bool := false
  hasPath : Bool := false
  /-- Whether `--` has been read. -/
  noOptions : Bool := false

namespace Draft

/-- The value of a slot. -/
def get? (d : Draft) : Slot → Option String
  | .path => d.path
  | .config => d.config
  | .format => d.format

/-- Fills a slot. Only the format may be empty. -/
def fill (d : Draft) (slot : Slot) (value : String) : Except Usage Draft :=
  if (d.get? slot).isSome then .error .repeatedArgument
  else
    match slot with
    | .path => if value.isEmpty then .error .invalidValue else .ok { d with path := value }
    | .config => if value.isEmpty then .error .invalidValue else .ok { d with config := value }
    | .format => .ok { d with format := value }

/-- Checks the pending value. -/
def resolve (d : Draft) : Except Usage Draft :=
  match d.pending with
  | none => .ok d
  | some (_, none) => .error .invalidValue
  | some (slot, some value) => { d with pending := none, awaiting := false }.fill slot value

/-- Sets a switch. -/
def turnOn (d : Draft) (switch : Switch) : Except Usage Draft := do
  let d ← d.resolve
  match switch with
  | .help => .error .help
  | .summary => if d.summary then .error .repeatedArgument else return { d with summary := true }
  | .verbose => if d.verbose then .error .repeatedArgument else return { d with verbose := true }

/-- Gives a slot its value, or leaves it to the next argument. -/
def assign (d : Draft) (slot : Slot) (value : Option String) : Except Usage Draft := do
  let d ← d.resolve
  match value with
  | some value => d.fill slot value
  | none => return { d with pending := some (slot, none), awaiting := true }

/-- Reads a long option. -/
def readLong (d : Draft) (name : String) (value : Option String) : Except Usage Draft :=
  match long? name, value with
  | none, _ => .error .unknownArgument
  | some (.inl slot), value => d.assign slot value
  | some (.inr _), some _ => .error .unexpectedValue
  | some (.inr switch), none => d.turnOn switch

/-- The value that follows a short option directly. -/
def attached : List Char → Option String
  | [] => none
  | '=' :: cs => some (String.ofList cs)
  | cs => some (String.ofList cs)

/-- Reads joined short options. -/
def readShort (d : Draft) : List Char → Except Usage Draft
  | [] => .ok d
  | c :: cs =>
    match short? c with
    | none => .error .unknownArgument
    | some (.inl slot) => d.assign slot (attached cs)
    | some (.inr switch) =>
      match d.turnOn switch with
      | .error e => .error e
      | .ok d => d.readShort cs

/-- Reads a path; there may be only one. -/
def readPath (d : Draft) (arg : String) : Except Usage Draft :=
  if d.hasPath then .error .unknownArgument
  else d.resolve.map fun d => { d with pending := some (.path, some arg), hasPath := true }

/-- Cuts a long option at its first equals sign. -/
def splitValue (cs : List Char) : String × Option String :=
  match cs.dropWhile (· != '=') with
  | [] => (String.ofList cs, none)
  | _ :: value => (String.ofList (cs.takeWhile (· != '=')), some (String.ofList value))

/-- Reads the next argument of `analyze`. -/
def read (d : Draft) (arg : String) : Except Usage Draft :=
  if d.noOptions then d.readPath arg
  else
    match arg.toList with
    | ['-', '-'] => .ok { d with noOptions := true }
    | '-' :: '-' :: cs =>
      let (name, value) := splitValue cs
      d.readLong name value
    | '-' :: c :: cs => d.readShort (c :: cs)
    | _ =>
      match d.awaiting, d.pending with
      | true, some (slot, _) => .ok { d with pending := some (slot, some arg), awaiting := false }
      | _, _ => d.readPath arg

/-- Reads all arguments of `analyze`. -/
def readAll (d : Draft) : List String → Except Usage Draft
  | [] => d.resolve
  | arg :: args =>
    match d.read arg with
    | .error e => .error e
    | .ok d => d.readAll args

/-- The options, if nothing is missing. -/
def finish (d : Draft) : Except Usage Options :=
  match d.path with
  | none => .error .missingArgument
  | some path =>
    .ok { path, config := d.config, format := d.format.getD "pretty", summary := d.summary,
          verbose := d.verbose }

end Draft

/-- The commands. -/
def commands : List String :=
  ["analyze", "help"]

/-- The answer to options in front of the command. -/
def readGlobal (arg : List Char) : Usage :=
  match arg with
  | '-' :: '-' :: cs =>
    let (name, value) := Draft.splitValue cs
    if name == "help" || name == "version" then
      if value.isSome then .unexpectedValue
      else if name == "help" then .help
      else .version
    else .unknownArgument
  | '-' :: 'h' :: _ => .help
  | '-' :: 'V' :: _ => .version
  | _ => .unknownArgument

/-- The answer to `help`: each word has to name a command, and commands have no commands of their
own. -/
def readHelp : List String → Usage
  | [] => .help
  | [name] => if commands.contains name then .help else .unknownCommand
  | _ => .unknownCommand

/-- Reads a command line. -/
def parse : List String → Except Usage Options
  | [] | ["--"] => .error .missingCommand
  | "analyze" :: args => (({} : Draft).readAll args).bind Draft.finish
  | "help" :: args => .error (readHelp args)
  | "--" :: arg :: _ =>
    .error (if commands.contains arg then .unknownArgument else .unknownCommand)
  | arg :: _ =>
    match arg.toList with
    | '-' :: c :: cs => .error (readGlobal ('-' :: c :: cs))
    | _ => .error .unknownCommand

end Options

end GoSurvey

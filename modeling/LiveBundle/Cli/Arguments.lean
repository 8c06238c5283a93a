import LiveBundle.Text.Basic

/-!
# Command lines

A command line names a command with its options and positional arguments. Some options belong to
every command and may stand in front of it, too. An option is given at most once on each side of the
command; the one behind the command counts.

* `Arguments.parse` reads a command line; a command line that is not understood has no reading.
-/

namespace LiveBundle.Cli

/-- A command with its arguments. -/
inductive Command where
  /-- Answer the messages of the standard input. -/
  | worker
  /-- Answer messages over the network. -/
  | serve (port : Option Nat) (host : Option String)
  /-- Bundle a file. -/
  | bundle (file : String) (out styles : Option String)
  /-- Scan the library into a registry file. -/
  | scan (root : Option String)
deriving DecidableEq, Repr

/-- A command and the options that belong to every command. -/
structure Invocation where
  command : Command
  verbose : Bool
  /-- The configuration file. -/
  config : String
  /-- The registry file, if it is not the one of the configuration. -/
  registry : Option String
deriving DecidableEq, Repr

/-- What a command line asks for. -/
inductive Request where
  | run (invocation : Invocation)
  /-- The version of the program, under the name of a command if there is one. -/
  | version (command : Option String)
  | help
deriving DecidableEq, Repr

/-- The options. -/
inductive Flag where
  | verbose
  | config
  | registry
  | out
  | styles
  | port
  | host
  | help
  | version
deriving DecidableEq, Repr

namespace Flag

/-- The long name. -/
def long : Flag → String
  | .verbose => "verbose"
  | .config => "config"
  | .registry => "registry"
  | .out => "out"
  | .styles => "styles"
  | .port => "port"
  | .host => "host"
  | .help => "help"
  | .version => "version"

/-- The short name. -/
def short? : Flag → Option Char
  | .verbose => some 'v'
  | .config => some 'c'
  | .out => some 'o'
  | .styles => some 's'
  | .port => some 'p'
  | .help => some 'h'
  | .version => some 'V'
  | .registry | .host => none

/-- Whether a value belongs to the option. -/
def takesValue : Flag → Bool
  | .verbose | .help | .version => false
  | _ => true

/-- The options of every command. -/
def common : List Flag := [.verbose, .config, .registry, .help, .version]

end Flag

/-- The names of the commands. -/
inductive CommandName where
  | worker
  | serve
  | bundle
  | scan
deriving DecidableEq, Repr

namespace CommandName

/-- The word for a command. -/
def word : CommandName → String
  | .worker => "worker"
  | .serve => "serve"
  | .bundle => "bundle"
  | .scan => "scan"

/-- All commands. -/
def all : List CommandName := [.worker, .serve, .bundle, .scan]

/-- The command with a name. -/
def ofWord? (s : String) : Option CommandName := all.find? (·.word == s)

/-- The options of a command. -/
def flags : CommandName → List Flag
  | .worker | .scan => Flag.common
  | .serve => Flag.common ++ [.port, .host]
  | .bundle => Flag.common ++ [.out, .styles]

/-- The number of positional arguments that a command may have. -/
def positionals : CommandName → Nat
  | .worker | .serve => 0
  | .bundle | .scan => 1

end CommandName

/-- What was read on one side of the command. -/
structure Reading where
  values : List (Flag × String) := []
  positionals : List String := []

/-- Why reading ends before the end of the command line. -/
inductive Stop where
  | help
  | version
  | misuse

namespace Arguments

/-- Whether an argument looks like an option and so is no value of one. -/
def looksLikeOption (s : String) : Bool :=
  match s.toList with
  | '-' :: _ :: _ => true
  | _ => false

/-- A number below 65536 without further marks; a plus sign may stand in front. -/
def port? (s : String) : Option Nat :=
  let digits := match s.toList with
    | '+' :: rest => rest
    | cs => cs
  if digits.isEmpty || !digits.all Char.isDigit then none
  else
    let n := digits.foldl (fun n c => n * 10 + (c.toNat - '0'.toNat)) 0
    if n < 65536 then some n else none

/-- Whether a value is fit for an option: paths are not empty, ports are ports. -/
def isFit (flag : Flag) (value : String) : Bool :=
  match flag with
  | .registry | .out | .styles => value != ""
  | .port => (port? value).isSome
  | _ => true

/-- Adds an option; an option is given once. -/
def note (r : Reading) (flag : Flag) (value : String) : Except Stop Reading :=
  if flag = .help then .error .help
  else if flag = .version then .error .version
  else if r.values.any (·.1 == flag) || !isFit flag value then .error .misuse
  else .ok { r with values := r.values ++ [(flag, value)] }

/-- Reads short options in one argument. An option with a value takes the rest of the argument, or
the next argument. Gives the arguments behind. -/
def readShort (flags : List Flag) (behind : List String) :
    List Char → Reading → Except Stop (Reading × List String)
  | [], r => .ok (r, behind)
  | c :: cs, r =>
    match flags.find? (·.short? == some c) with
    | none => .error .misuse
    | some flag =>
      if flag.takesValue then
        match cs with
        | [] =>
          match behind with
          | value :: rest =>
            if looksLikeOption value then .error .misuse
            else (note r flag value).map fun r => (r, rest)
          | [] => .error .misuse
        | '=' :: value => (note r flag (String.ofList value)).map fun r => (r, behind)
        | value => (note r flag (String.ofList value)).map fun r => (r, behind)
      else
        match note r flag "" with
        | .ok r => readShort flags behind cs r
        | .error e => .error e

/-- Reads a long option without its hyphens. Gives the arguments behind. -/
def readLong (flags : List Flag) (behind : List String) (text : List Char) (r : Reading) :
    Except Stop (Reading × List String) :=
  let (name, given) := match Text.splitAt? '=' text with
    | some (name, value) => (String.ofList name, some (String.ofList value))
    | none => (String.ofList text, none)
  match flags.find? (·.long == name) with
  | none => .error .misuse
  | some flag =>
    match flag.takesValue, given, behind with
    | true, some value, _ => (note r flag value).map fun r => (r, behind)
    | true, none, value :: rest =>
      if looksLikeOption value then .error .misuse
      else (note r flag value).map fun r => (r, rest)
    | true, none, [] => .error .misuse
    | false, some _, _ => .error .misuse
    | false, none, _ => (note r flag "").map fun r => (r, behind)

/-- Adds a positional argument; a path is not empty. -/
def notePositional (limit : Nat) (value : String) (r : Reading) : Except Stop Reading :=
  if r.positionals.length < limit && value != "" then
    .ok { r with positionals := r.positionals ++ [value] }
  else .error .misuse

/-- Reads the arguments behind a command. -/
def readCommand (command : CommandName) : Nat → List String → Reading → Except Stop Reading
  | 0, _, r => .ok r
  | _, [], r => .ok r
  | fuel + 1, arg :: rest, r =>
    match arg.toList with
    | ['-', '-'] => rest.foldlM (fun r value => notePositional command.positionals value r) r
    | '-' :: '-' :: name =>
      match readLong command.flags rest name r with
      | .ok (r, rest) => readCommand command fuel rest r
      | .error e => .error e
    | '-' :: c :: cs =>
      match readShort command.flags rest (c :: cs) r with
      | .ok (r, rest) => readCommand command fuel rest r
      | .error e => .error e
    | _ =>
      match notePositional command.positionals arg r with
      | .ok r => readCommand command fuel rest r
      | .error e => .error e

/-- Reads the arguments up to a command: the options, the command and the arguments behind it. -/
def readFront : Nat → List String → Reading →
    Except Stop (Reading × CommandName × List String)
  | 0, _, _ => .error .misuse
  | _, [], _ => .error .misuse
  | fuel + 1, arg :: rest, r =>
    match arg.toList with
    | ['-', '-'] => .error .misuse
    | '-' :: '-' :: name =>
      match readLong Flag.common rest name r with
      | .ok (r, rest) => readFront fuel rest r
      | .error e => .error e
    | '-' :: c :: cs =>
      match readShort Flag.common rest (c :: cs) r with
      | .ok (r, rest) => readFront fuel rest r
      | .error e => .error e
    | _ =>
      match CommandName.ofWord? arg with
      | some command => .ok (r, command, rest)
      | none => if arg = "help" then .error .help else .error .misuse

/-- The value of an option. -/
def valueOf? (r : Reading) (flag : Flag) : Option String := r.values.lookup flag

/-- The command with its own arguments. -/
def commandOf? (command : CommandName) (r : Reading) : Option Command :=
  match command with
  | .worker => some .worker
  | .serve => some (.serve ((valueOf? r .port).bind port?) (valueOf? r .host))
  | .bundle => r.positionals.head?.map fun file =>
      .bundle file (valueOf? r .out) (valueOf? r .styles)
  | .scan => some (.scan r.positionals.head?)

/-- Reads a command line. The registry of the environment counts where no option names one; it may
not be empty then. -/
def parse (defaultConfig : String) (environment : Option String) (args : List String) :
    Option Request :=
  match readFront (args.length + 1) args {} with
  | .error .help => some .help
  | .error .version => some (.version none)
  | .error .misuse => none
  | .ok (front, command, rest) =>
    match readCommand command (rest.length + 1) rest {} with
    | .error .help => some .help
    | .error .version => some (.version (some command.word))
    | .error .misuse => none
    | .ok r =>
      let registry := (valueOf? r .registry <|> valueOf? front .registry) <|> environment
      if registry = some "" then none
      else (commandOf? command r).map fun command => .run {
        command
        verbose := (valueOf? r .verbose).isSome || (valueOf? front .verbose).isSome
        config := ((valueOf? r .config <|> valueOf? front .config)).getD defaultConfig
        registry }

end Arguments

end LiveBundle.Cli

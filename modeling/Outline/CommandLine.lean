import Outline.Text.Digits

/-!
# The command line

Options come before the subcommand. A long option takes the text behind its first `=`, or else the
next argument; a short one takes what follows its letter, with or without `=`, or else the next
argument. The next argument is no value when it begins with `-`, unless it is only that. An option
is given once, but for the one that collects arguments. The first thing that is wrong, and the first
request for help or for the version, ends the reading.
-/

namespace Outline.CommandLine

/-- What the program is to do. -/
inductive Command where
  | serve
  /-- Register the server in the workspace. -/
  | config
  deriving DecidableEq, Repr

/-- The options. -/
structure Options where
  workspace        : String := "."
  languageServer   : String := "rust-analyzer"
  serverArgs       : List String := []
  logLevel         : String := "info"
  requestTimeoutMs : Nat := 2000
  initTimeoutSecs  : Nat := 30
  command          : Command := .serve
  deriving DecidableEq, Repr

/-- What a command line asks for. -/
inductive Request where
  | run (options : Options)
  | help
  | version
  /-- The command line is wrong. -/
  | usage
  deriving DecidableEq, Repr

/-- The options that take a value. -/
inductive OptionName where
  | workspace
  | languageServer
  | serverArgs
  | logLevel
  | requestTimeoutMs
  | initTimeoutSecs
  deriving DecidableEq, Repr

/-- Options read so far, and those that have been given. -/
structure Reading where
  options : Options := {}
  given   : List OptionName := []

namespace OptionName

/-- The long name. -/
def ofLong? : String → Option OptionName
  | "workspace"            => some workspace
  | "language-server"      => some languageServer
  | "language-server-args" => some serverArgs
  | "log-level"            => some logLevel
  | "request-timeout-ms"   => some requestTimeoutMs
  | "init-timeout-secs"    => some initTimeoutSecs
  | _                      => none

/-- The short name. -/
def ofShort? : Char → Option OptionName
  | 'w' => some workspace
  | 'l' => some languageServer
  | _   => none

end OptionName

/-- Puts a value into the options; `none` when it does not fit. -/
def setValue (o : Options) (value : String) : OptionName → Option Options
  | .workspace        => if value.isEmpty then none else some { o with workspace := value }
  | .languageServer   => some { o with languageServer := value }
  | .serverArgs       => some { o with serverArgs := o.serverArgs ++ [value] }
  | .logLevel         => some { o with logLevel := value }
  | .requestTimeoutMs => (number64? value.toList).map fun n => { o with requestTimeoutMs := n }
  | .initTimeoutSecs  => (number64? value.toList).map fun n => { o with initTimeoutSecs := n }

/-- Takes an option with its value; `none` when it is wrong or given twice. -/
def Reading.take (r : Reading) (name : OptionName) (value : String) : Option Reading :=
  if name ≠ .serverArgs && r.given.contains name then none
  else (setValue r.options value name).map fun options => ⟨options, name :: r.given⟩

/-- An argument that can be the value of the option before it. -/
def isValue (arg : String) : Bool := arg == "-" || !arg.startsWith "-"

/-- What an argument is. -/
inductive Token where
  /-- A long option by name, with the text behind `=`. -/
  | long (name : String) (value : Option String)
  /-- Letters behind a dash. -/
  | short (letters : List Char)
  /-- The end of the options. -/
  | stop
  | word (text : String)
  deriving DecidableEq, Repr

/-- Takes an argument apart. -/
def tokenOf (arg : String) : Token :=
  match arg.toList with
  | ['-', '-']       => .stop
  | '-' :: '-' :: cs =>
    let name := String.ofList (cs.takeWhile (· ≠ '='))
    match cs.dropWhile (· ≠ '=') with
    | _ :: value => .long name (some (String.ofList value))
    | []         => .long name none
  | '-' :: c :: cs   => .short (c :: cs)
  | _                => .word arg

/-- What stands behind the letter of a short option, without an `=` at its front. -/
def attached? : List Char → Option String
  | []        => none
  | '=' :: cs => some (String.ofList cs)
  | cs        => some (String.ofList cs)

/-- Reads what follows the subcommand `config`, which has no options of its own. -/
def readConfig (options : Options) : List String → Request
  | []        => .run { options with command := .config }
  | arg :: rest =>
    match tokenOf arg with
    | .long "help" none => .help
    | .short ('h' :: _) => .help
    | .stop             => if rest.isEmpty then .run { options with command := .config } else .usage
    | _                 => .usage

/-- Reads what follows the subcommand `help`. -/
def readHelp : List String → Request
  | [] | ["config"] | ["help"] => .help
  | _                          => .usage

/-- Reads arguments from the front; `pending` is an option that waits for its value. -/
def readFrom (r : Reading) (pending : Option OptionName) : List String → Request
  | []          => if pending.isSome then .usage else .run r.options
  | arg :: rest =>
    match pending with
    | some option =>
      match if isValue arg then r.take option arg else none with
      | some r => readFrom r none rest
      | none   => .usage
    | none =>
      match tokenOf arg with
      | .stop                => if rest.isEmpty then .run r.options else .usage
      | .word "config"       => readConfig r.options rest
      | .word "help"         => readHelp rest
      | .word _              => .usage
      | .long "help" none    => .help
      | .long "version" none => .version
      | .short ('h' :: _)    => .help
      | .short ('V' :: _)    => .version
      | .long name value     =>
        match OptionName.ofLong? name, value with
        | none,        _          => .usage
        | some option, none       => readFrom r (some option) rest
        | some option, some value =>
          match r.take option value with
          | some r => readFrom r none rest
          | none   => .usage
      | .short []            => .usage
      | .short (c :: cs)     =>
        match OptionName.ofShort? c, attached? cs with
        | none,        _          => .usage
        | some option, none       => readFrom r (some option) rest
        | some option, some value =>
          match r.take option value with
          | some r => readFrom r none rest
          | none   => .usage

/-- Reads a command line, without the name of the program. -/
def read (args : List String) : Request := readFrom {} none args

end Outline.CommandLine

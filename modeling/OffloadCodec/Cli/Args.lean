import OffloadCodec.Settings

/-!
# Command-line arguments

A command line is a program name, options, and one of three commands with options and positional
arguments of its own. `Scope.options` and `Scope.positionals` are the grammar; `-v`, `-q`,
`--library` and `-h` may stand before or after the command, and what is given after it counts.

Options are single letters that may be run together (`-avv`), the last with its value attached
(`-B64K`, `-B=64K`) or following, or words (`--level=3`, `--level 3`). After `--` everything is
positional. A value is checked only when the next argument shows that it is complete, so an unknown
option behind a bad value is what is reported.
-/

namespace OffloadCodec.Cli

/-- Why a command line is not carried out. -/
inductive UsageError
  | unknownArgument
  | invalidSubcommand
  | missingSubcommand
  | missingRequiredArgument
  /-- An option that needs a value has none, or a path is empty. -/
  | invalidValue
  /-- A value that cannot be read. -/
  | valueValidation
  /-- A flag with a value attached. -/
  | tooManyValues
  /-- An option given twice. -/
  | argumentConflict
  | displayHelp
  | displayVersion
  /-- Nothing was given at all. -/
  | helpOnMissingArgument
deriving DecidableEq, Repr

/-- The process's exit code: asking for help or the version is no failure. -/
def UsageError.exitCode : UsageError → Nat
  | .displayHelp => 0
  | .displayVersion => 0
  | _ => 2

/-- Where arguments stand: in front of the command or behind one. -/
inductive Scope
  | top
  | check
  | compress
  | decompress
deriving DecidableEq, Repr

/-- What an argument is for. -/
inductive Key
  | verbose
  | quiet
  | library
  | help
  | version
  | all
  | level
  | blockSize
  | input
  | output
deriving DecidableEq, Repr

/-- An option as it is spelled. -/
structure OptionForm where
  key : Key
  letter : Option Char
  word : String
  takesValue : Bool
deriving DecidableEq, Repr

namespace Scope

def sharedOptions : List OptionForm :=
  [⟨.verbose, some 'v', "verbose", false⟩, ⟨.quiet, some 'q', "quiet", false⟩,
    ⟨.library, none, "library", true⟩, ⟨.help, some 'h', "help", false⟩]

def blockSizeOption : OptionForm := ⟨.blockSize, some 'B', "block-size", true⟩

def options : Scope → List OptionForm
  | .top => ⟨.version, some 'V', "version", false⟩ :: sharedOptions
  | .check => ⟨.all, some 'a', "all", false⟩ :: sharedOptions
  | .compress => ⟨.level, some 'l', "level", true⟩ :: blockSizeOption :: sharedOptions
  | .decompress => blockSizeOption :: sharedOptions

def positionals : Scope → List Key
  | .top => []
  | .check => []
  | .compress => [.input, .output]
  | .decompress => [.input, .output]

/-- The command of a name. -/
def command? : String → Option Scope
  | "check" => some .check
  | "compress" => some .compress
  | "decompress" => some .decompress
  | _ => none

def option? (scope : Scope) (word : String) : Option OptionForm :=
  scope.options.find? (·.word = word)

def letter? (scope : Scope) (letter : Char) : Option OptionForm :=
  scope.options.find? (·.letter = some letter)

end Scope

/-- What was given in one scope. -/
structure Given where
  verbose : Option Nat := none
  quiet : Option Nat := none
  library : Option String := none
  all : Option Unit := none
  level : Option Int32 := none
  blockSize : Option Nat := none
  input : Option String := none
  output : Option String := none
deriving DecidableEq, Repr

/-- Repeated flags are counted up to 255. -/
def countUp (count : Option Nat) : Option Nat := some (min (count.getD 0 + 1) 255)

namespace Given

/-- Stores a value that must not be there yet. -/
def once {α : Type} (slot : Option α) (value : Except UsageError α) : Except UsageError (Option α) :=
  match slot with
  | some _ => .error .argumentConflict
  | none => value.map some

/-- The value of an option that takes one. -/
def oneValue (values : List String) : Except UsageError String :=
  match values with
  | [] => .error .invalidValue
  | value :: _ => .ok value

def levelValue (text : String) : Except UsageError Int32 :=
  match Text.int32? text.toList with
  | some level => .ok level
  | none => .error .valueValidation

def blockSizeValue (text : String) : Except UsageError Nat :=
  match Size.parseBlockSize text with
  | .ok size => .ok size
  | .error _ => .error .valueValidation

def pathValue (text : String) : Except UsageError String :=
  if text = "" then .error .invalidValue else .ok text

/-- Takes an argument in with its values. -/
def accept (given : Given) (key : Key) (values : List String) : Except UsageError Given := do
  match key with
  | .help => throw .displayHelp
  | .version => throw .displayVersion
  | .verbose => return { given with verbose := countUp given.verbose }
  | .quiet => return { given with quiet := countUp given.quiet }
  | .all => return { given with all := ← once given.all (.ok ()) }
  | .library =>
    let value ← oneValue values
    return { given with library := ← once given.library (.ok value) }
  | .level =>
    let value ← oneValue values
    return { given with level := ← once given.level (levelValue value) }
  | .blockSize =>
    let value ← oneValue values
    return { given with blockSize := ← once given.blockSize (blockSizeValue value) }
  | .input =>
    let value ← oneValue values
    return { given with input := ← once given.input (pathValue value) }
  | .output =>
    let value ← oneValue values
    return { given with output := ← once given.output (pathValue value) }

end Given

/-- Arguments read so far in one scope. -/
structure Reading where
  given : Given := {}
  /-- An option or positional argument with the values that it has so far. -/
  pending : Option (Key × List String) := none
  /-- The pending option still waits for its value. -/
  waiting : Bool := false
  /-- Positional arguments seen. -/
  position : Nat := 0
  /-- A `--` was seen. -/
  trailing : Bool := false

namespace Reading

/-- Takes the pending argument in. -/
def settle (reading : Reading) : Except UsageError Reading :=
  match reading.pending with
  | none => .ok reading
  | some (key, values) =>
    (reading.given.accept key values).map fun given => { reading with given, pending := none }

/-- Settles what is pending, then takes an argument in that is complete. -/
def take (reading : Reading) (key : Key) (values : List String) : Except UsageError Reading := do
  let reading ← reading.settle
  return { reading with given := ← reading.given.accept key values, waiting := false }

/-- Settles what is pending, then waits for an option's value. -/
def await (reading : Reading) (key : Key) : Except UsageError Reading := do
  return { ← reading.settle with pending := some (key, []), waiting := true }

/-- Gives the option that waits its value. -/
def giveValue (reading : Reading) (value : String) : Reading :=
  match reading.pending with
  | some (key, values) =>
    { reading with pending := some (key, values ++ [value]), waiting := false }
  | none => { reading with waiting := false }

/-- The option that waits takes negative numbers. -/
def awaitsNumber (reading : Reading) : Bool :=
  reading.waiting &&
    match reading.pending with
    | some (.level, _) => true
    | _ => false

/-- Takes a positional argument in. -/
def positional (reading : Reading) (scope : Scope) (value : String) :
    Except UsageError Reading := do
  match scope.positionals[reading.position]? with
  | some key =>
    return { ← reading.settle with
      pending := some (key, [value])
      waiting := false
      position := reading.position + 1 }
  | none =>
    if scope = .top ∧ ¬(reading.trailing ∧ (Scope.command? value).isSome) ∧
        ¬(reading.trailing ∧ value = "help") then
      throw .invalidSubcommand
    else throw .unknownArgument

/-- An option word with the value attached to it, if any. -/
def word (reading : Reading) (scope : Scope) (name : String) (value : Option String) :
    Except UsageError Reading := do
  match scope.option? name with
  | none => throw .unknownArgument
  | some form =>
    match form.takesValue, value with
    | true, some value => reading.take form.key [value]
    | true, none => reading.await form.key
    | false, some _ => throw .tooManyValues
    | false, none => reading.take form.key []

/-- Option letters run together. -/
def letters (reading : Reading) (scope : Scope) : List Char → Except UsageError Reading
  | [] => .ok reading
  | c :: rest => do
    match scope.letter? c with
    | none => throw .unknownArgument
    | some form =>
      if form.takesValue then
        match rest with
        | [] => reading.await form.key
        | '=' :: value => reading.take form.key [String.ofList value]
        | value => reading.take form.key [String.ofList value]
      else letters (← reading.take form.key []) scope rest

end Reading

/-- Digits with at most one point, not in front, and after them at most one exponent: an `e` of either
case, not in front, and digits behind it. -/
def looksNumeric (text : List Char) : Bool :=
  let isMark := fun (c : Char) => c = 'e' || c = 'E'
  let mantissa := text.takeWhile (!isMark ·)
  let exponent := text.dropWhile (!isMark ·)
  let numeric := fun (digits : List Char) => digits.all Text.isDigit
  let decimal := fun (digits : List Char) =>
    numeric (digits.takeWhile (· != '.')) && numeric ((digits.dropWhile (· != '.')).drop 1)
  decimal mantissa && mantissa.head? != some '.' &&
    (exponent = [] || (mantissa != [] && exponent.length != 1 && numeric (exponent.drop 1)))

/-- The part before the first equals sign, and the part after it if there is one. -/
def splitValue (text : List Char) : String × Option String :=
  let name := String.ofList (text.takeWhile (· != '='))
  match text.dropWhile (· != '=') with
  | [] => (name, none)
  | _ :: value => (name, some (String.ofList value))

/-- Takes in one argument that names no command. -/
def Reading.argument (reading : Reading) (scope : Scope) (arg : String) :
    Except UsageError Reading :=
  let asValue :=
    if reading.waiting ∧ ¬reading.trailing then .ok (reading.giveValue arg)
    else reading.positional scope arg
  if reading.trailing then asValue
  else match arg.toList with
    | ['-', '-'] => .ok { reading with trailing := true }
    | '-' :: '-' :: name =>
      let (name, value) := splitValue name
      reading.word scope name value
    | ['-'] => asValue
    | '-' :: letters =>
      if reading.awaitsNumber ∧ looksNumeric letters then asValue
      else reading.letters scope letters
    | _ => asValue

/-- Reads the arguments behind a command. -/
def readCommand (scope : Scope) (args : List String) : Except UsageError Given := do
  let reading ← args.foldlM (fun reading arg => Reading.argument reading scope arg) {}
  let reading ← reading.settle
  let given := reading.given
  if scope.positionals ≠ [] ∧ (given.input.isNone ∨ given.output.isNone) then
    throw .missingRequiredArgument
  return given

/-- The arguments of the `help` command: at most the name of one command. -/
def readHelp : List String → UsageError
  | [] => .displayHelp
  | [name] =>
    if name = "help" ∨ (Scope.command? name).isSome then .displayHelp else .invalidSubcommand
  | _ => .invalidSubcommand

/-- Reads the arguments up to the command, and then those behind it. -/
def readTop (reading : Reading) : List String → Except UsageError (Given × Scope × Given)
  | [] => do
    let reading ← reading.settle
    if reading.given = {} then throw .helpOnMissingArgument else throw .missingSubcommand
  | arg :: args => do
    if ¬reading.trailing ∧ ¬reading.waiting then
      if arg = "help" then throw (readHelp args)
      match Scope.command? arg with
      | some scope =>
        let given ← readCommand scope args
        let reading ← reading.settle
        return (reading.given, scope, given)
      | none => readTop (← reading.argument .top arg) args
    else readTop (← reading.argument .top arg) args

/-- What a command works on. -/
structure FileArgs where
  input : String
  output : String
  /-- Uncompressed bytes per block; from the environment when not given. -/
  blockSize : Option Nat
deriving DecidableEq, Repr

inductive Command
  /-- Reports on the library, with a round trip if `all`. -/
  | check (all : Bool)
  | compress (files : FileArgs) (level : Option Int32)
  | decompress (files : FileArgs)
deriving DecidableEq, Repr

/-- A command line that can be carried out. -/
structure CommandLine where
  verbose : Nat
  quiet : Nat
  library : Option String
  command : Command
deriving DecidableEq, Repr

namespace CommandLine

/-- Reads a command line. The first argument is the program's name. -/
def parse (argv : List String) : Except UsageError CommandLine := do
  let (top, scope, given) ← readTop {} argv.tail
  let files : FileArgs := ⟨given.input.getD "", given.output.getD "", given.blockSize⟩
  let command :=
    match scope with
    | .top => .check false
    | .check => .check given.all.isSome
    | .compress => .compress files given.level
    | .decompress => .decompress files
  return {
    verbose := (given.verbose <|> top.verbose).getD 0
    quiet := (given.quiet <|> top.quiet).getD 0
    library := given.library <|> top.library
    command }

/-- The display level: 2, raised by each `-v` and lowered by each `-q`, within 0 and 4. -/
def displayLevel (line : CommandLine) : Nat :=
  min (2 + line.verbose - line.quiet) 4

/-- The library to open: the one asked for, else the environment's or the default. -/
def libraryName (line : CommandLine) (environment : Environment) : String :=
  line.library.getD (Settings.libraryName environment)

end CommandLine

end OffloadCodec.Cli

import OffloadCodec.Cli.Args
import OffloadCodec.Host
import OffloadCodec.Transfer

/-!
# Running a command

`run` carries out a command line on a process: it sets the display level, binds the library and runs
the command. Its result is the exit code, or an error that `main` prints at level 1 before it exits
with 1. A program that stops exits with a code of its own, and what the runtime says about it has no
level.
-/

namespace OffloadCodec.Cli

/-- Why a command failed. -/
inductive RunError
  /-- The library could not be bound. -/
  | link (error : LinkError)
  /-- A file could not be coded. -/
  | transfer (files : FileArgs) (error : IoError)
  /-- The program stops, see `StreamFailure.overrun`. -/
  | overrun
deriving DecidableEq, Repr

namespace RunError

/-- What failed. -/
def headline : RunError → String
  | .link error => error.message
  | .transfer files _ => files.input ++ " -> " ++ files.output
  | .overrun => ""

/-- What failed, and why. -/
def message : RunError → String
  | .link error => error.message
  | .transfer files error => files.input ++ " -> " ++ files.output ++ ": " ++ error.message
  | .overrun => ""

def ofStream (files : FileArgs) : StreamFailure → RunError
  | .error e => .transfer files e
  | .overrun => .overrun

end RunError

/-- The stream options of a command: the block size asked for, else the environment's. -/
def streamOptions (files : FileArgs) (environment : Environment) :
    Settings.Setting StreamOptions :=
  let options := StreamOptions.fromEnvironment environment
  match files.blockSize with
  | some blockSize => ⟨{ options.value with blockSize }, options.ignored⟩
  | none => options

variable {σ ι : Type}

/-- The level of a command: the one asked for, else the environment's. -/
def commandLevel (level : Option Int32) (environment : Environment) : Settings.Setting Int32 :=
  match level with
  | some level => ⟨level, none⟩
  | none => Settings.level environment

/-- Compresses a file with a bound library. -/
def runCompress (library : Library σ ι) (files : FileArgs) (level : Option Int32)
    (world : World σ) : Except RunError Nat × World σ :=
  let (options, world) := world.take (streamOptions files world.environment)
  let (level, world) := world.take (commandLevel level world.environment)
  let world := world.say 3
    ("Using " ++ library.path ++ " (block size " ++ toString options.blockSize ++ ")\n")
  match (library.compressFile files.input files.output options (some level)).runOn world with
  | (.ok _, world) => (.ok 0, world)
  | (.error e, world) => (.error (.ofStream files e), world)

/-- Decompresses a file with a bound library. -/
def runDecompress (library : Library σ ι) (files : FileArgs) (world : World σ) :
    Except RunError Nat × World σ :=
  let (options, world) := world.take (streamOptions files world.environment)
  match (library.decompressFile files.input files.output options).runOn world with
  | (.ok _, world) => (.ok 0, world)
  | (.error e, world) => (.error (.ofStream files e), world)

/-- Checks the library and prints the report. -/
def runCheck (host : Host σ ι) (name : String) (all : Bool) :
    Except RunError Nat × Host σ ι :=
  let (report, host) := host.checkLibrary name all
  let console := host.world.console.report report.render
  let console :=
    match report.linkError with
    | some e => console.say 3 (e ++ "\n")
    | none => console
  let host := { host with world := { host.world with console } }
  (.ok (if report.passed then 0 else 1), host)

/-- Runs a command on the library of a name. -/
def onLibrary (host : Host σ ι) (name : String)
    (command : Library σ ι → World σ → Except RunError Nat × World σ) :
    Except RunError Nat × Host σ ι :=
  match host.initFrom name with
  | (.error e, host) => (.error (.link e), host)
  | (.ok library, host) =>
    let (result, world) := command library host.world
    (result, { host with world })

/-- Carries out a command line; the result is the exit code. -/
def run (host : Host σ ι) (line : CommandLine) : Except RunError Nat × Host σ ι :=
  let console := { host.world.console with level := line.displayLevel }
  let host := { host with world := { host.world with console } }
  let name := line.libraryName host.world.environment
  match line.command with
  | .check all => runCheck host name all
  | .compress files level =>
    onLibrary host name fun library => runCompress library files level
  | .decompress files => onLibrary host name fun library => runDecompress library files

/-- What a process exits with, and what it leaves behind. -/
structure Exit (σ ι : Type) where
  code : Nat
  host : Host σ ι

/-- The exit code of a program that stops. -/
def stoppedCode : Nat := 101

/-- Stands for what the runtime says about a program that stops. -/
def stoppedNotice : String := "a length reaches past its buffer\n"

/-- The whole program: reads the command line, runs it, and reports an error at level 1. The notice is
what the runtime says if the program stops. -/
def runMain (host : Host σ ι) (argv : List String) (notice : String := stoppedNotice) :
    Except UsageError (Exit σ ι) :=
  match CommandLine.parse argv with
  | .error e => .error e
  | .ok line =>
    match run host line with
    | (.ok code, host) => .ok ⟨code, host⟩
    | (.error .overrun, host) => .ok ⟨stoppedCode, { host with world := host.world.warn notice }⟩
    | (.error e, host) =>
      let world := host.world.say 1 ("qatcodec: " ++ e.message ++ "\n")
      .ok ⟨1, { host with world }⟩

end OffloadCodec.Cli

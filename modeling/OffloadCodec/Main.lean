import OffloadCodec.Cli.Run
import OffloadCodec.Version

/-!
# The command-line program

The outer layer: it collects arguments and environment, runs `Cli.runMain`, prints what the console
holds and returns the exit code. This build has no dynamic loader, so no command gets as far as
coding a file, and the program starts without any files.
-/

namespace OffloadCodec

/-- The environment variables that the program reads. -/
def readEnvironment : IO Environment := do
  let names := [Settings.libraryVariable, Settings.levelVariable, Settings.blockSizeVariable]
  let values ← names.mapM fun name => do return (name, ← IO.getEnv name)
  return values.filterMap fun (name, value) => value.map (name, ·)

/-- How the program is called. -/
def usage : String :=
  "Usage: qatcodec [-v] [-q] [--library PATH] COMMAND\n\n" ++
    "Commands:\n" ++
    "  check [-a]\n" ++
    "  compress INPUT OUTPUT [-l LEVEL] [-B SIZE]\n" ++
    "  decompress INPUT OUTPUT [-B SIZE]\n"

def runProgram (argv : List String) : IO UInt32 := do
  let environment ← readEnvironment
  let host : Host Unit Unit := { world := { native := (), environment }, loader := none }
  match Cli.runMain host argv with
  | .error .displayVersion => IO.print Version.line; return 0
  | .error .displayHelp => IO.print usage; return 0
  | .error e => IO.eprint usage; return UInt32.ofNat e.exitCode
  | .ok exit =>
    IO.print exit.host.world.console.outputText
    IO.eprint exit.host.world.console.errorText
    return UInt32.ofNat exit.code

end OffloadCodec

def main (args : List String) : IO UInt32 := OffloadCodec.runProgram ("qatcodec" :: args)

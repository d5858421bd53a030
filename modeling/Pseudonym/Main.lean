import Pseudonym.Interface.CommandLine

/-!
# The program

Reads the command line and shows what was asked for.
-/

namespace Pseudonym.Interface

/-- The lines that show a command line. -/
def CommandLine.lines (c : CommandLine) : List String :=
  let shown (p : Option Files.Path) : String := (p.map (·.text)).getD "-"
  ["project: " ++ shown c.project, "target: " ++ shown c.target, "output: " ++ shown c.output,
   "log level: " ++ c.logLevel, "log file: " ++ c.logFile.text]

/-- The line that tells how the program is called. -/
def usageLine : String :=
  "usage: shuffler-gui [-h] [--target TARGET] [--output OUTPUT] [--log-level LEVEL] " ++
    "[--log-file LOG_FILE] [--version] [project]"

end Pseudonym.Interface

open Pseudonym.Interface in
/-- Runs the program and gives its status. -/
def main (words : List String) : IO UInt32 := do
  match parseCommandLine words with
  | .ok c =>
    for line in c.lines do IO.println line
  | .error .help => IO.println usageLine
  | .error .version => IO.print versionLine
  | .error (.usage message) =>
    IO.eprintln usageLine
    IO.eprintln ("shuffler-gui: error: " ++ message)
  return match parseCommandLine words with
    | .ok _ => 0
    | .error e => e.status.toUInt32

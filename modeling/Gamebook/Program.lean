import Gamebook.CommandLine

namespace Gamebook

/-- What a run of the program leaves behind: its status, what it printed, and what it printed
beside that about errors. -/
structure Outcome where
  status : Nat
  out : String
  err : String
  deriving DecidableEq, Repr

/-- What the program finds around it: settings that stand in for options, the time, and share codes
to draw from. -/
structure Surroundings where
  dataDir : Option String
  player : Option String
  now : Instant
  candidates : List String

namespace CommandLine

/-- Lines as they are printed. -/
def printed (lines : List String) : String :=
  String.join (lines.map (· ++ "\n"))

/-- What is printed about how the program is used. -/
def usageLines : List String :=
  ["Usage: fable [--data-dir <DIR>] [--player <ID>] <COMMAND>", "", "Commands:"] ++
    shapes.map fun shape => "  " ++ shape.name

/-- The outcome of a command line that names no command to run. -/
def Stop.outcome : Stop → Outcome
  | .usage => ⟨2, "", printed usageLines⟩
  | .help => ⟨0, printed usageLines, ""⟩
  | .version name => ⟨0, printed [versionLine name], ""⟩

namespace Invocation

/-- The setting of a command: options count before what stands in for them. -/
def setting (invocation : Invocation) (around : Surroundings) : Setting :=
  let root := (invocation.globals.dataDir.or around.dataDir).getD Library.here.root
  { library := ⟨root⟩
    sessions := .file ⟨root⟩
    player := (invocation.globals.player.or around.player).getD "local"
    now := around.now
    candidates := around.candidates }

end Invocation

/-- Runs the program with some arguments. -/
def execute (arguments : List String) (around : Surroundings) : FileAction Empty Outcome :=
  match parse arguments with
  | .error stop => .done stop.outcome
  | .ok invocation => do
    match ← (invocation.command.run (invocation.setting around)).attempt with
    | .ok (report, _) => return ⟨0, printed report.lines, printed report.notices⟩
    | .error error => return ⟨1, "", printed (error.notices ++ error.lines)⟩

end CommandLine

end Gamebook

import CodeStyle.CommandLine.Outcome
import CodeStyle.Disk.Snapshot

/-!
# The program

Reads a snapshot of the files with their trees from standard input, as an array in JSON, and does
what the arguments ask for.
-/
namespace CodeStyle.CommandLine

/-- The names of the variables of the environment that make a difference. -/
def settingNames : List String :=
  [Config.locationVariable, "NO_COLOR", "CLICOLOR_FORCE", "CLICOLOR"]

/-- The variables that are set. -/
def readSettings : List String → IO (List (String × String))
  | [] => return []
  | name :: rest => do
    let others ← readSettings rest
    match ← IO.getEnv name with
    | some value => return (name, value) :: others
    | none => return others

/-- Reads lines up to the end of a stream, behind what has been read. -/
partial def readAll (input : IO.FS.Stream) (done : String) : IO String := do
  let line ← input.getLine
  if line.isEmpty then return done else readAll input (done ++ line)

/-- Runs the program and gives the code it ends with. -/
def program (arguments : List String) : IO UInt32 := do
  let started ← IO.monoMsNow
  let snapshot ← readAll (← IO.getStdin) ""
  let entries := ((JsonValue.read? snapshot.toList).bind (·.asArray?)).getD []
  let set ← readSettings settingNames
  let output ← IO.getStdout
  let env : Environment := {
    disk := .ofSnapshot entries
    setting? := fun name => set.lookup name
    isTerminal := ← output.isTty }
  match run? env arguments with
  | none =>
    (← IO.getStderr).putStrLn "The arguments make no sense."
    return 2
  | some outcome =>
    let code := outcome.code.toUInt32
    output.putStr (outcome.output ((← IO.monoMsNow) - started))
    match outcome.failure with
    | some text => (← IO.getStderr).putStrLn text
    | none => pure ()
    return code

end CodeStyle.CommandLine

def main (arguments : List String) : IO UInt32 := CodeStyle.CommandLine.program arguments

import Crosstab.Command.Basic

/-!
The program. It reads the files and variables that its arguments can refer to, and prints what the
command yields. No database is linked to it, so commands that need one report that it cannot be
opened.
-/

namespace Crosstab

def readFileState (path : String) : IO FileState := do
  try return .text (← IO.FS.readFile path)
  catch
    | .noFileOrDirectory _ _ _ => return .missing
    | e => return .unreadable (toString e)

/-- The directory with the settings of the user. -/
def readUserDirectory : IO (Option String) := do
  match ← IO.getEnv "XDG_CONFIG_HOME" with
  | some directory => return some directory
  | none => return (← IO.getEnv "HOME").map (· ++ "/.config")

def readVariables (names : List String) : IO (List (String × String)) :=
  names.filterMapM fun name => do return (← IO.getEnv name).map (name, ·)

def noDatabases (hasLocalWorker : Bool) : Connector Unit where
  database _ _ := .error (.database "unable to open database file")
  hasLocalWorker
  worker _ _ _ := .error (.spawnFailed "No such file or directory (os error 2)")

/-- The files that an invocation can refer to. -/
def filesOf (invocation : Invocation) (userDirectory configured : Option String) : List String :=
  invocation.config.toList ++ configured.toList ++ [World.localSettings] ++
    (userDirectory.map World.userSettings).toList ++
    match invocation.command with
    | .compile path _ | .run path => [path]
    | .values _ _ _ _ | .catalog => []

/-- What the system has of all that an invocation can refer to. -/
def readWorld (invocation : Invocation) : IO (World Unit) := do
  let userDirectory ← readUserDirectory
  let configured ← IO.getEnv "TABULA_CONFIG"
  let files ← (filesOf invocation userDirectory configured).mapM fun path => do
    return (path, ← readFileState path)
  let hasLocalWorker := match ← readFileState localWorker with
    | .missing => false
    | .unreadable _ | .text _ => true
  let world : World Unit := {
    environment := ⟨fun name => if name = "TABULA_CONFIG" then .ofText? configured else .unset⟩
    file := fun path => (files.lookup path).getD .missing
    userDirectory, connector := noDatabases hasLocalWorker, callId := "-" }
  match world.settings invocation.config with
  | .error _ => return world
  | .ok settings =>
    let found ← readVariables settings.store.referencedNames
    return { world with
      environment := ⟨fun name => .ofText? ((world.environment name).or (found.lookup name))⟩ }

end Crosstab

open Crosstab in
/-- Carries out the command that the arguments name. -/
def main (arguments : List String) : IO UInt32 := do
  let printout ←
    match Invocation.ofArguments arguments with
    | .error digression => pure (Printout.ofDigression digression)
    | .ok invocation => pure ((← readWorld invocation).run arguments).1
  IO.print printout.output
  printout.messages.forM IO.eprintln
  return printout.exitCode.toUInt32

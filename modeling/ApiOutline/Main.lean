import ApiOutline.Program

/-!
The program at a terminal: it reads what a run can need, runs it, shows what the run showed, and
ends with its exit code. Servers and accounts are out of reach.
-/
open ApiOutline

def variableNames : List String :=
  ["HOME", "XDG_CONFIG_HOME", "XDG_DATA_HOME", "NO_COLOR", "TERM", "COLUMNS", "LINES"]
    ++ Configuration.optionVariables.map (·.1)

partial def rest (input : IO.FS.Stream) (before : List String) : IO String := do
  let line ← input.getLine
  if line.isEmpty then
    return String.ofList (Text.unifyBreaks (String.join before.reverse).toList)
  rest input (line :: before)

def explore (s : Surroundings) (p : Path) : IO Surroundings := do
  let mut s := s
  for steps in Surroundings.places (s.start p) p.steps do
    let found : Path := ⟨"/", steps⟩
    let place := (← IO.currentDir) / found.toText
    if ← place.isDir then
      s := { s with directories := found :: s.directories }
    else
      if let .ok contents ← (IO.FS.readBinFile place).toBaseIO then
        s := { s with files := (found, contents) :: s.files }
  return s

def surroundings (arguments : List String) : IO Surroundings := do
  let environment ← variableNames.filterMapM fun name => do
    return (← IO.getEnv name).map fun value => (name, value)
  let input ← if arguments.contains "-" then rest (← IO.getStdin) [] else pure ""
  let s : Surroundings :=
    { system := "Linux"
      environment
      directory := Path.ofText (← IO.currentDir).toString
      directories := []
      files := []
      input
      fetch := fun _ => .failure "The network is out of reach"
      isTerminal := ← (← IO.getStdout).isTty
      writes := fun c => (Text.half? c).isNone }
  let paths := (Configuration.preferencesPath s).toOption.toList
    ++ (Program.reportDirectory s).toOption.toList
    ++ Configuration.projectPath s :: arguments.map Path.ofText
  paths.foldlM explore s

def keepReport (directory : Path) (f : Failure) : IO String := do
  let place := (← IO.currentDir) / directory.toText
  IO.FS.createDirAll place
  let draft := place / "crash.log"
  IO.FS.writeFile draft (f.report ++ "\n")
  let time := Calendar.digitsOfSeconds (← draft.metadata).modified.sec.toNat
  IO.FS.rename draft (place / ("crash-" ++ time ++ ".log"))
  return time

def main (arguments : List String) : IO UInt32 := do
  let s ← surroundings arguments
  let crash := (Program.run s "" arguments).crash
  let time ← match crash, Program.reportDirectory s with
    | some f, .ok directory => keepReport directory f
    | _, _ => pure ""
  let (exitCode, screen) := Program.seen (Program.run s time arguments)
  (← IO.getStdout).putStr screen.output
  (← IO.getStderr).putStr screen.errors
  return exitCode.toUInt32

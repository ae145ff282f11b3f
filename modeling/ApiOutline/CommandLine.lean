import ApiOutline.Configuration

/-!
The command line. Options before the command hold for every command, those after it for the command
alone. Options may be given again; the last one counts.
-/
namespace ApiOutline

structure Settings where
  json : Bool
  plain : Bool
  noColor : Bool
  quiet : Bool
  verbose : Bool

inductive Command where
  | preprocess (source : String) (flags : Configuration.Flags)
  | definitions (source : String)
  | security (source : String) (flags : Configuration.Flags)

/-- What the arguments after a command ask for. Arguments that ask for nothing that there is are a
misuse. -/
inductive Wish where
  | help
  | run (command : Command)
  | misuse

/-- What a command line asks for. The settings hold before the arguments of a command are looked
at. -/
inductive Request where
  | version
  | help
  | command (settings : Settings) (wish : Wish)
  | misuse

namespace CommandLine

structure Arguments where
  switches : List String
  positions : List String

def switchesOf (known : List String) (argument : String) : Option (List String) :=
  if known.contains argument then some [argument]
  else
    match argument.toList with
    | '-' :: '-' :: _ => none
    | '-' :: letters =>
      let names := letters.map fun c => String.ofList ['-', c]
      if names.all known.contains then some names else none
    | _ => none

def isSwitch (argument : String) : Bool :=
  match argument.toList with
  | '-' :: _ :: _ => true
  | _ => false

/-- Scans arguments. Two dashes end the switches; where a command follows, its name does so too. -/
def scan (known : List String) (stopsAtCommand : Bool) : List String → Option Arguments
  | [] => some ⟨[], []⟩
  | a :: rest =>
    if a = "--" then some ⟨[], rest⟩
    else if isSwitch a then do
      let names ← switchesOf known a
      let more ← scan known stopsAtCommand rest
      some { more with switches := names ++ more.switches }
    else if stopsAtCommand then some ⟨[], a :: rest⟩
    else do
      let more ← scan known stopsAtCommand rest
      some { more with positions := a :: more.positions }

def generalSwitches : List String :=
  ["--version", "--json", "--plain", "--no-color", "--quiet", "-q", "--verbose", "-v", "--help"]

def pair (name : String) : List String := ["--" ++ name, "--no-" ++ name]

def flag (name : String) (switches : List String) : Option Bool :=
  (switches.reverse.find? (pair name).contains).map (· == "--" ++ name)

def flagsOf (switches : List String) : Configuration.Flags :=
  ⟨flag "strict" switches, flag "viewer" switches, flag "sub-operations" switches⟩

def single (known arguments : List String) (build : String → Configuration.Flags → Command) :
    Wish :=
  match scan ("--help" :: known) false arguments with
  | none => .misuse
  | some a =>
    if a.switches.contains "--help" then .help
    else
      match a.positions with
      | [source] => .run (build source (flagsOf a.switches))
      | _ => .misuse

def inspect (arguments : List String) : Wish :=
  match scan ["--help"] true arguments with
  | none => .misuse
  | some a =>
    if a.switches.contains "--help" then .help
    else
      match a.positions with
      | "definitions" :: rest => single [] rest fun source _ => .definitions source
      | "security" :: rest => single (pair "strict") rest .security
      | arguments =>
        match scan ["--help"] true arguments with
        | some b => if b.switches.contains "--help" then .help else .misuse
        | none => .misuse

def settingsOf (switches : List String) : Settings :=
  let has := switches.contains
  ⟨has "--json", has "--plain", has "--no-color", has "--quiet" || has "-q",
    has "--verbose" || has "-v"⟩

/-- Version and help come before everything that follows them, and before each other as they are
given. -/
def eager? (switches : List String) : Option Request :=
  (switches.find? ["--version", "--help"].contains).map fun s =>
    if s = "--version" then .version else .help

/-- What a whole command line asks for. Where a command must follow but none does, the switches that
stand there can still ask for version or help. -/
def parse (arguments : List String) : Request :=
  match scan generalSwitches true arguments with
  | none => .misuse
  | some a =>
    match eager? a.switches with
    | some request => request
    | none =>
      let settings := settingsOf a.switches
      match a.positions with
      | "preprocess" :: rest =>
        .command settings
          (single (pair "strict" ++ pair "viewer" ++ pair "sub-operations") rest .preprocess)
      | "inspect" :: rest => .command settings (inspect rest)
      | arguments =>
        match scan generalSwitches true arguments with
        | none => .misuse
        | some b => (eager? b.switches).getD .misuse

end CommandLine

end ApiOutline

import ApiOutline.CommandLine

/-! Switches for the volume of a run. Without them a command line asks for the same, under the same
settings but for quiet and verbose. -/
namespace ApiOutline

def Settings.muted (s : Settings) : Settings := { s with quiet := false, verbose := false }

def Request.muted : Request → Request
  | .command settings wish => .command settings.muted wish
  | request => request

namespace CommandLine

def volumeSwitches : List String := ["--quiet", "-q", "--verbose", "-v"]

def isVolume (argument : String) : Bool :=
  (switchesOf generalSwitches argument).any (·.all volumeSwitches.contains)

def muted : List String → List String
  | [] => []
  | a :: rest =>
    if a = "--" then a :: rest
    else if isSwitch a then if isVolume a then muted rest else a :: muted rest
    else a :: rest

variable {arguments arguments' names switches : List String} {name : String}

end CommandLine

end ApiOutline

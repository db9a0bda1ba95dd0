set_option autoImplicit false

namespace StoryMarkers

structure Arguments where
  /-- A snapshot to begin with. -/
  snapshot : Option String := none
  /-- A file with settings. -/
  config : Option String := none
deriving DecidableEq, Repr

inductive ArgumentError where
  | unexpected (argument : String)
  | valueMissing (option : String)
  | repeated (option : String)
deriving DecidableEq, Repr

def ArgumentError.message : ArgumentError → String
  | .unexpected argument => "unexpected argument '" ++ argument ++ "' found"
  | .valueMissing option => "a value is required for '" ++ option ++ "' but none was supplied"
  | .repeated option => "the argument '" ++ option ++ "' cannot be used multiple times"

namespace Arguments

def setSnapshot (arguments : Arguments) (path : String) : Except ArgumentError Arguments :=
  match arguments.snapshot with
  | some _ => .error (.repeated "--snapshot <SNAPSHOT>")
  | none => .ok { arguments with snapshot := some path }

def setConfig (arguments : Arguments) (path : String) : Except ArgumentError Arguments :=
  match arguments.config with
  | some _ => .error (.repeated "--config <CONFIG>")
  | none => .ok { arguments with config := some path }

/-- Reads options and their values from left to right. -/
def read : List String → Arguments → Except ArgumentError Arguments
  | [], arguments => .ok arguments
  | "--snapshot" :: path :: rest, arguments => do read rest (← arguments.setSnapshot path)
  | "--config" :: path :: rest, arguments => do read rest (← arguments.setConfig path)
  | ["--snapshot"], _ => .error (.valueMissing "--snapshot <SNAPSHOT>")
  | ["--config"], _ => .error (.valueMissing "--config <CONFIG>")
  | argument :: _, _ => .error (.unexpected argument)

def ofList (list : List String) : Except ArgumentError Arguments := read list {}

end Arguments

end StoryMarkers

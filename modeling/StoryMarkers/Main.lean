import StoryMarkers.App.Update
import StoryMarkers.Arguments
import StoryMarkers.Settings.Load

set_option autoImplicit false

namespace StoryMarkers.Main

/-- The variable that names a file with settings. -/
def settingsVariable : String := "SCENE_MARKERS_CONFIG"

def readFile (path : String) : IO (Except ReadError String) := do
  try
    return Files.ofBytes path (← IO.FS.readBinFile path)
  catch e =>
    let fault : ReadFault := match e with
      | .noFileOrDirectory .. => .missing
      | .inappropriateType .. => .isDirectory
      | other => .other (toString other)
    return .error ⟨path, fault⟩

def loadSettings (asked : Option String) : IO (Except SettingsError Settings) := do
  match Settings.source? asked (← IO.getEnv settingsVariable) with
  | some path => return Settings.ofContent (← readFile path)
  | none => return .ok {}

def loadSnapshot (path : Option String) : IO (Except SnapshotError Snapshot) := do
  match path with
  | some path => return Snapshot.ofContent (← readFile path)
  | none => return .ok {}

def fail (doing reason : String) : IO UInt32 := do
  IO.eprintln ("Error: " ++ doing ++ "\n\nCaused by:\n    " ++ reason)
  return 1

def run (arguments : Arguments) : IO UInt32 := do
  match ← loadSettings arguments.config with
  | .error e => fail "failed to load configuration" e.message
  | .ok settings =>
    match ← loadSnapshot arguments.snapshot with
    | .error e => fail ("failed to load snapshot " ++ arguments.snapshot.getD "") e.message
    | .ok snapshot => do
      let app := App.start settings snapshot arguments.snapshot
      for text in (app.update .away {}).2 do
        IO.println text
      return 0

end StoryMarkers.Main

def main (args : List String) : IO UInt32 := do
  match StoryMarkers.Arguments.ofList args with
  | .error e => do
    IO.eprintln ("error: " ++ e.message)
    return 2
  | .ok arguments => StoryMarkers.Main.run arguments

import StoryMarkers.Files
import StoryMarkers.Settings
import StoryMarkers.Toml.Reader

set_option autoImplicit false

namespace StoryMarkers

inductive SettingsError where
  | unreadable (e : ReadError)
  /-- No TOML, or a value of the wrong type. -/
  | malformed
  | policy (e : PolicyError)

def SettingsError.message : SettingsError → String
  | .unreadable e => e.message
  | .malformed => "invalid configuration"
  | .policy e => e.message

namespace Settings

open Toml (Value)

def text? : Value → Option String
  | .string s => some s
  | _ => none

def boolean? : Value → Option Bool
  | .boolean b => some b
  | _ => none

/-- Whole numbers count as fractions too. -/
def real? : Value → Option Float
  | .float x => some x
  | .integer n => some (Float.ofInt n)
  | _ => none

/--
The values of the named fields of a record. A table holds them by name and may hold others; an
array holds them in this order and may hold fewer or more; a date or time holds none of them.
-/
def fields? (names : List String) : Value → Option (String → Option Value)
  | .table entries => some fun name => entries.lookup name
  | .array items => some fun name => (names.zip items).lookup name
  | .moment => some fun _ => none
  | _ => none

/-- A field that is missing keeps its default. -/
def field? {α : Type} (read : Value → Option α) (default : α) : Option Value → Option α
  | none => some default
  | some value => read value

def policy? (value : Value) : Option Policy := do
  let field ← fields? ["label_distance_scale", "label_threshold", "size_factor", "min_size",
    "max_size", "info_radius_threshold"] value
  let start : Policy := {}
  some {
    labelDistanceScale := ← field? real? start.labelDistanceScale (field "label_distance_scale")
    labelThreshold := ← field? real? start.labelThreshold (field "label_threshold")
    sizeFactor := ← field? real? start.sizeFactor (field "size_factor")
    minSize := ← field? real? start.minSize (field "min_size")
    maxSize := ← field? real? start.maxSize (field "max_size")
    infoRadiusThreshold :=
      ← field? real? start.infoRadiusThreshold (field "info_radius_threshold") }

def ofValue? (value : Value) : Option Settings := do
  let field ← fields? ["story_uri", "info_icon_key", "scene_root", "unsubscribe_removed",
    "log_level", "policy"] value
  let start : Settings := {}
  some {
    storyUri := ← field? text? start.storyUri (field "story_uri")
    infoIconKey := ← field? text? start.infoIconKey (field "info_icon_key")
    sceneRoot := ← field? text? start.sceneRoot (field "scene_root")
    unsubscribeRemoved := ← field? boolean? start.unsubscribeRemoved (field "unsubscribe_removed")
    logLevel := ← field? text? start.logLevel (field "log_level")
    policy := ← field? policy? start.policy (field "policy") }

def ofToml (text : String) : Except SettingsError Settings :=
  match (Toml.read? text).bind ofValue? with
  | none => .error .malformed
  | some settings =>
    match settings.policy.validate with
    | .error e => .error (.policy e)
    | .ok () => .ok settings

/-- The settings in a file, if the file could be read. -/
def ofContent : Except ReadError String → Except SettingsError Settings
  | .error e => .error (.unreadable e)
  | .ok text => ofToml text

/-- The file that was asked for comes before the one that the environment names. -/
def source? (asked environment : Option String) : Option String := asked <|> environment

/-- Without a file the defaults hold. -/
def load (files : Files) (asked environment : Option String) : Except SettingsError Settings :=
  match source? asked environment with
  | some path => ofContent (files.read path)
  | none => .ok {}

end Settings

end StoryMarkers

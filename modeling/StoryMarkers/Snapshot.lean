import StoryMarkers.Catalog
import StoryMarkers.Files
import StoryMarkers.Tree.Wire

set_option autoImplicit false

namespace StoryMarkers

open Json

structure Snapshot where
  tree : Tree := {}
  fetched : List Fetched := []

inductive SnapshotError where
  | unreadable (e : ReadError)
  | malformed (fault : Fault)

def SnapshotError.message : SnapshotError → String
  | .unreadable e => e.message
  | .malformed fault => "invalid snapshot: " ++ fault.message

namespace Snapshot

def record : Record Snapshot where
  name := "AppState"
  start := {}
  fields := [
    { name := "propertyTree"
      read := fun depth doc x => do .ok { x with tree := ← Tree.decode depth doc } },
    { name := "fetchData"
      read := fun depth doc x => do
        .ok { x with fetched := ← decodeList Fetched.decode depth doc } }]

def ofText (text : String) : Except SnapshotError Snapshot :=
  (Json.decode record.decode text).mapError .malformed

/-- The snapshot in a file, if the file could be read. -/
def ofContent : Except ReadError String → Except SnapshotError Snapshot
  | .error e => .error (.unreadable e)
  | .ok text => ofText text

def load (files : Files) (path : String) : Except SnapshotError Snapshot :=
  ofContent (files.read path)

def toJson (x : Snapshot) : Value :=
  .object [
    ("propertyTree", x.tree.toJson),
    ("fetchData", .array (x.fetched.map Fetched.toJson))]

end Snapshot

end StoryMarkers

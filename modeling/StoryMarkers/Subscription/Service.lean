import StoryMarkers.Snapshot
import StoryMarkers.Subscription.Command
import StoryMarkers.Tree.Lookup

set_option autoImplicit false

namespace StoryMarkers

structure Service where
  snapshot : Snapshot := {}
  /-- How many start and stop requests there were, for unknown properties too. -/
  requests : Nat := 0

namespace Service

/-- Changes the property at an address, if there is one. -/
def update (service : Service) (uri : String) (change : Property → Property) : Service :=
  { service with
    snapshot := { service.snapshot with tree := service.snapshot.tree.update uri change } }

def listeners? (service : Service) (uri : String) : Option UInt32 :=
  (service.snapshot.tree.find? uri).map (·.listeners)

def start (service : Service) (uri : String) : Service :=
  { service.update uri Property.start with requests := service.requests + 1 }

def stop (service : Service) (uri : String) : Service :=
  { service.update uri Property.stop with requests := service.requests + 1 }

def run (service : Service) : Command → Service
  | .start uri => service.start uri
  | .stop uri => service.stop uri

def dispatch (service : Service) (commands : List Command) : Service :=
  commands.foldl run service

/-- A streamed value replaces the value at an address. -/
def setValue (service : Service) (uri value : String) : Service :=
  service.update uri (·.setValue value)

/-- Whether an address leads to a property. -/
def knows (service : Service) (uri : String) : Bool := (service.snapshot.tree.slot? uri).isSome

/-- Puts the counts of listeners of some properties into a tree. -/
def carry (tree : Tree) (properties : List Property) : Tree :=
  (properties.filter (·.listeners ≠ 0)).foldl
    (fun tree p => tree.update p.uri (·.setListeners p.listeners)) tree

/-- A fresh tree; properties that somebody listens to keep their count. -/
def replaceTree (service : Service) (tree : Tree) : Service :=
  { service with
    snapshot := { service.snapshot with
      tree := carry tree service.snapshot.tree.allProperties } }

def setFetched (service : Service) (fetched : List Fetched) : Service :=
  { service with snapshot := { service.snapshot with fetched } }

end Service

end StoryMarkers

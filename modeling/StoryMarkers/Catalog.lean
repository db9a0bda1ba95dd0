import StoryMarkers.Json.Decode
import StoryMarkers.Json.Printer

set_option autoImplicit false

namespace StoryMarkers

open Json

/-- The answer to a fetch request. -/
structure Fetched where
  id : String
  succeeded : Bool := false
  data : Option Value := none

namespace Fetched

def record : Record Fetched where
  name := "FetchEntry"
  start := { id := "" }
  fields := [
    { name := "id"
      required := true
      read := fun depth doc x => do .ok { x with id := ← decodeText depth doc } },
    { name := "succeed"
      read := fun depth doc x => do .ok { x with succeeded := ← decodeBool depth doc } },
    { name := "data"
      read := fun depth doc x => do .ok { x with data := ← decodeOption decodeValue depth doc } }]

def decode : Decoder Fetched := record.decode

def toJson (x : Fetched) : Value :=
  .object [
    ("id", .string x.id),
    ("succeed", .bool x.succeeded),
    ("data", x.data.getD .null)]

end Fetched

structure Planet where
  name : String
  info : String
  /-- What else the description holds, sorted by key. -/
  extra : List (String × Value)

namespace Planet

/-- An object with the name of the planet; its text may be missing. -/
def ofValue? : Value → Option Planet
  | .object entries => do
    let name ← (← entries.lookup "planet").asString?
    let info ← match entries.lookup "info" with
      | some info => info.asString?
      | none => some ""
    some ⟨name, info, entries.filter fun (key, _) => key != "planet" && key != "info"⟩
  | _ => none

def toJson (x : Planet) : Value :=
  .object (("planet", .string x.name) :: ("info", .string x.info) :: x.extra)

end Planet

structure Catalog where
  planets : List Planet := []

namespace Catalog

def planetsOfValue? : Value → Option (List Planet)
  | .array items => items.mapM Planet.ofValue?
  | _ => none

/-- An object with a list of planets, or that list as the only item of an array. -/
def ofValue? : Value → Option Catalog
  | .object entries =>
    match entries.lookup "planets" with
    | some planets => (planetsOfValue? planets).map Catalog.mk
    | none => some {}
  | .array [] => some {}
  | .array [planets] => (planetsOfValue? planets).map Catalog.mk
  | _ => none

/-- Only the first answer with the given id counts; one that does not decode in full leaves the
catalog empty. -/
def ofFetched (fetched : List Fetched) (key : String) : Catalog :=
  match fetched.find? fun entry => entry.id = key with
  | some ⟨_, true, some data⟩ => (ofValue? data).getD {}
  | _ => {}

def isEmpty (catalog : Catalog) : Bool := catalog.planets.isEmpty

def find? (catalog : Catalog) (name : String) : Option Planet :=
  catalog.planets.find? fun planet => planet.name = name

def toJson (catalog : Catalog) : Value :=
  .object [("planets", .array (catalog.planets.map Planet.toJson))]

end Catalog

end StoryMarkers

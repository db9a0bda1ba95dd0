set_option autoImplicit false

namespace StoryMarkers.Json

inductive Number where
  | int (n : Int)
  | float (x : Float)

/-- Whole numbers stand apart from fractions, and the entries of an object in the order of their
keys. -/
inductive Value where
  | null
  | bool (b : Bool)
  | number (n : Number)
  | string (s : String)
  | array (items : List Value)
  | object (entries : List (String × Value))

/-- Adds an entry to a list sorted by key; a key that is there already takes the new value. -/
def insertEntry {α : Type} (key : String) (value : α) : List (String × α) → List (String × α)
  | [] => [(key, value)]
  | (k, v) :: rest =>
    if key = k then (key, value) :: rest
    else if key < k then (key, value) :: (k, v) :: rest
    else (k, v) :: insertEntry key value rest

/-- The entries sorted by key, the last one of each key counting. -/
def sortEntries {α : Type} (entries : List (String × α)) : List (String × α) :=
  entries.foldl (fun sorted (key, value) => insertEntry key value sorted) []

def Value.asString? : Value → Option String
  | .string s => some s
  | _ => none

end StoryMarkers.Json

import StoryMarkers.Uri

set_option autoImplicit false

namespace StoryMarkers

/-- A value that did not come as a string is kept as its JSON text, no value as the empty one. -/
structure Property where
  uri : String
  name : Option String := none
  value : String
  quoted : Bool := true
  listeners : UInt32 := 0
deriving DecidableEq, Repr

namespace Property

/-- A raw `true` is not the string `"true"`. -/
def isString (p : Property) (expected : String) : Bool := p.quoted && p.value = expected

/-- An owner finds its properties by the last name of their address. -/
def answersTo (p : Property) (name : String) : Bool := Uri.name p.uri = name

/-- One listener more. -/
def start (p : Property) : Property := { p with listeners := p.listeners + 1 }

/-- One listener less, but never fewer than none. -/
def stop (p : Property) : Property :=
  { p with listeners := if p.listeners = 0 then 0 else p.listeners - 1 }

/-- A streamed value is a string. -/
def setValue (p : Property) (value : String) : Property := { p with value, quoted := true }

def setListeners (p : Property) (count : UInt32) : Property := { p with listeners := count }

end Property

end StoryMarkers

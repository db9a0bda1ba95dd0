/-! Dotted addresses: names of owners from the root down, and the name of a property last. -/

set_option autoImplicit false

namespace StoryMarkers.Uri

/-- The names between the dots; an address without a dot is one name. -/
def segments (uri : String) : List String := (uri.toList.splitOn '.').map String.ofList

/-- The part after the last dot. -/
def name (uri : String) : String := (segments uri).getLastD ""

/-- The parts before the last dot, none for an address without a dot. -/
def owners (uri : String) : List String := (segments uri).dropLast

/-- The address of what is called `name` inside what has the address `uri`. -/
def child (uri name : String) : String := uri ++ "." ++ name

end StoryMarkers.Uri

set_option autoImplicit false

namespace StoryMarkers.Toml

inductive Value where
  | string (s : String)
  | integer (n : Int)
  | float (x : Float)
  | boolean (b : Bool)
  /-- A date or a time, of which no more is known than that it is there. -/
  | moment
  | array (items : List Value)
  | table (entries : List (String × Value))

end StoryMarkers.Toml

import StoryMarkers.Decimal.Reader
import StoryMarkers.Text.Blank

set_option autoImplicit false

namespace StoryMarkers.Position

def notANumber : Float := 0 / 0

/-- A blank text is zero, and any other text that is no number is not a number. -/
def readNumber (text : List Char) : Float :=
  match Text.trim Text.isBlank text with
  | [] => 0
  | trimmed => (Decimal.readFloat? trimmed).getD notANumber

/-- Brackets and blanks, which may stand around a position. -/
def isWrapping (c : Char) : Bool :=
  c = '[' || c = ']' || c = '\x7b' || c = '\x7d' || c = '(' || c = ')' || Text.isBlank c

/-- The numbers between commas, in brackets of any kind or in none. -/
def read (text : String) : List Float :=
  match Text.trim isWrapping text.toList with
  | [] => []
  | trimmed => (trimmed.splitOn ',').map readNumber

end StoryMarkers.Position

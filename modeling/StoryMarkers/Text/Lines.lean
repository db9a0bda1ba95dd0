import StoryMarkers.Text.Blank

/-!
Texts set in lines: how wide they are, and into how many lines a text is broken where room is short.

Every character takes a whole number of pixels. A line that grows too wide is broken after its last
blank, else after its last dash, else after another mark of punctuation, else before the character
that no longer fits.
-/

set_option autoImplicit false

namespace StoryMarkers.Text

/-- The pixels that the characters from the blank to the tilde take. -/
def printableWidths : Array Nat := #[
  3, 3, 5, 8, 7, 11, 8, 3, 4, 4, 6, 7, 3, 4, 3, 5, 7, 7, 7, 7, 7, 7, 7, 7, 7, 7, 3, 3, 7, 7, 7, 5,
  12, 8, 8, 8, 9, 7, 7, 9, 9, 3, 6, 8, 6, 11, 9, 10, 7, 10, 8, 6, 7, 9, 8, 12, 8, 8, 7, 4, 5, 4,
  7, 6, 5, 6, 7, 6, 7, 7, 5, 7, 7, 3, 3, 7, 3, 11, 7, 7, 7, 7, 5, 5, 5, 7, 6, 9, 6, 6, 6, 4, 3, 4,
  7]

/-- The carriage return, and characters that only join others or set their direction. -/
def isInvisible (c : Char) : Bool :=
  let n := c.toNat
  n == 0x0d || (0x200b ≤ n && n ≤ 0x200f) || (0x202a ≤ n && n ≤ 0x202e) ||
    (0x2060 ≤ n && n ≤ 0x206f && n ≠ 0x2065) || n == 0xfeff

/-- Signs that fill a square: ideographs, pictures, and all that there is no glyph for. -/
def isSquare (c : Char) : Bool := c.toNat < 0x20 || (0x1100 ≤ c.toNat && ¬ isBlank c)

def charWidth (c : Char) : Nat :=
  if c = '\t' then 12
  else if isInvisible c then 0
  else if h : 0x20 ≤ c.toNat ∧ c.toNat - 0x20 < printableWidths.size then
    printableWidths[c.toNat - 0x20]
  else if isSquare c then 13
  else 7

/-- The lines that a text is written in. -/
def lines (text : String) : List (List Char) := text.toList.splitOn '\n'

def lineWidth (line : List Char) : Nat := (line.map charWidth).foldr (· + ·) 0

/-- The width of the widest line. -/
def width (text : String) : Nat := ((lines text).map lineWidth).foldl max 0

/-- Whatever of ASCII is neither letter, digit, blank nor control. -/
def isPunctuation (c : Char) : Bool := 0x21 ≤ c.toNat && c.toNat ≤ 0x7e && ¬ c.isAlphanum

/-- Where the next line would begin if the line were broken at the latest place of each kind. -/
structure Breaks where
  blank : Option Nat := none
  dash : Option Nat := none
  punctuation : Option Nat := none
  anywhere : Option Nat := none

namespace Breaks

def best (breaks : Breaks) : Option Nat :=
  breaks.blank <|> breaks.dash <|> breaks.punctuation <|> breaks.anywhere

/-- The places for a break once `c`, which ends at `stop`, is on the line too. -/
def add (breaks : Breaks) (c : Char) (stop : Nat) : Breaks :=
  let breaks := { breaks with anywhere := some stop }
  if isBlank c ∧ c.toNat ≠ 0xa0 then { breaks with blank := some stop }
  else if c = '-' then { breaks with dash := some stop }
  else if isPunctuation c then { breaks with punctuation := some stop }
  else breaks

end Breaks

/-- How often characters from `x` on are broken, on a line that began at `start`. -/
def breakCount (room start x : Nat) (breaks : Breaks) : List Char → Nat
  | [] => 0
  | c :: rest =>
    let stop := x + charWidth c
    match if room < stop - start then breaks.best else none with
    | some next => 1 + breakCount room next stop (({} : Breaks).add c stop) rest
    | none => breakCount room start stop (breaks.add c stop) rest

/-- The number of lines that a text takes where a line has so much room. -/
def lineCount (room : Nat) (text : String) : Nat :=
  ((lines text).map fun line => 1 + breakCount room 0 0 {} line).foldr (· + ·) 0

end StoryMarkers.Text

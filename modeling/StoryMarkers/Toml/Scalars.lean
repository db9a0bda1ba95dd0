import StoryMarkers.Decimal.Reader
import StoryMarkers.Toml.Scan
import StoryMarkers.Toml.Strings
import StoryMarkers.Toml.Value

set_option autoImplicit false

namespace StoryMarkers.Toml

/-- Digits with single underscores between them, returned without the underscores. -/
def digitRun (isDigit : Char → Bool) : Scan (List Char) := do
  let first ← Scan.takeWhile isDigit
  if first.isEmpty then failure
  let rest ← Scan.many do
    if ← Scan.charIf '_' then
      let run ← Scan.takeWhile isDigit
      if run.isEmpty then failure
      pure (some run)
    else pure none
  pure (first ++ rest.flatten)

/-- A whole number without leading zeros; digits after a zero are left. -/
def wholeRun : Scan (List Char) := do
  if ← Scan.charIf '0' then pure ['0'] else digitRun Char.isDigit

def int64? (n : Int) : Option Int :=
  if -0x8000000000000000 ≤ n ∧ n < 0x8000000000000000 then some n else none

/-- A number in another base, after the mark of the base. -/
def basedInteger (base : Nat) : Scan Value := do
  let isDigit (c : Char) : Bool := match hexDigit? c with
    | some d => d < base
    | none => false
  let run ← digitRun isDigit
  let size : Nat := (run.filterMap hexDigit?).foldl (fun n d => base * n + d) 0
  let n ← (int64? size : Option Int)
  pure (.integer n)

/-- The exponent of a float, if there is one. -/
def exponent? : Scan (Option Int) := do
  match ← Scan.peek with
  | some 'e' | some 'E' => do
    let _ ← Scan.next
    let negative ← Scan.charIf '-'
    if !negative then
      let _ ← Scan.charIf '+'
    let run ← digitRun Char.isDigit
    let size : Int := Decimal.ofDigits run
    pure (some (if negative then -size else size))
  | _ => pure none

/-- A number in base ten after its sign. A float must not be too large, unless it is negative. -/
def number (negative : Bool) : Scan Value := do
  let whole ← wholeRun
  let fraction ← if ← Scan.charIf '.' then some <$> digitRun Char.isDigit else pure none
  let power ← exponent?
  match fraction, power with
  | none, none => do
    let size : Int := Decimal.ofDigits whole
    let n ← (int64? (if negative then -size else size) : Option Int)
    pure (.integer n)
  | _, _ => do
    let x : Float :=
      (Decimal.Numeral.ofParts negative whole (fraction.getD []) (power.getD 0)).round
    if x.isInf && !negative then failure
    pure (.float x)

/-- A number with or without a sign, an infinity, or not a number. -/
def signedNumber : Scan Value := do
  let negative ← Scan.charIf '-'
  let positive ← if negative then pure false else Scan.charIf '+'
  if ← Scan.wordIf "inf" then pure (.float (if negative then -(1 / 0) else 1 / 0))
  else if ← Scan.wordIf "nan" then pure (.float (if negative then -(0 / 0) else 0 / 0))
  else if negative || positive then number negative
  else if ← Scan.wordIf "0x" then basedInteger 16
  else if ← Scan.wordIf "0o" then basedInteger 8
  else if ← Scan.wordIf "0b" then basedInteger 2
  else number false

/-- A fixed count of digits. -/
def digits (count : Nat) : Scan Nat := fun text =>
  let run := text.take count
  if run.length = count && run.all Char.isDigit then
    some (Decimal.ofDigits run, text.drop count)
  else none

def daysInMonth (year month : Nat) : Nat :=
  if month = 2 then
    if year % 4 = 0 ∧ (year % 100 ≠ 0 ∨ year % 400 = 0) then 29 else 28
  else if month = 4 ∨ month = 6 ∨ month = 9 ∨ month = 11 then 30
  else 31

/-- A year, a month and a day of the calendar. -/
def date : Scan Unit := do
  let year ← digits 4
  Scan.char '-'
  let month ← digits 2
  Scan.char '-'
  let day ← digits 2
  if month < 1 || 12 < month || day < 1 || daysInMonth year month < day then failure

def hour : Scan Unit := do
  if 23 < (← digits 2) then failure

def minute : Scan Unit := do
  if 59 < (← digits 2) then failure

/-- A time of day; a leap second is allowed, and so is a fraction of a second. -/
def time : Scan Unit := do
  hour
  Scan.char ':'
  minute
  Scan.char ':'
  if 60 < (← digits 2) then failure
  let text ← Scan.ahead
  match text with
  | '.' :: c :: _ =>
    if c.isDigit then do
      Scan.char '.'
      let _ ← Scan.takeWhile Char.isDigit
  | _ => pure ()

/-- A distance from universal time, if one is given. -/
def offset : Scan Unit := do
  match ← Scan.peek with
  | some 'Z' => Scan.char 'Z'
  | some 'z' => Scan.char 'z'
  | some '+' | some '-' => do
    let _ ← Scan.next
    hour
    Scan.char ':'
    minute
  | _ => pure ()

/-- The time after a date: a `T` or a blank, a time and an offset. -/
def timeOfDate : Scan Unit := do
  match ← Scan.peek with
  | some 'T' => Scan.char 'T'
  | some 't' => Scan.char 't'
  | _ => Scan.char ' '
  time
  offset

/-- A date, a date with a time, or a time on its own. -/
def moment : Scan Value := do
  match ← Scan.attempt date with
  | some () => do
    let _ ← Scan.attempt timeOfDate
    pure .moment
  | none => do
    time
    pure .moment

/-- Dates come before numbers, as both begin with digits. -/
def scalar : Scan Value := do
  match ← Scan.peek with
  | some '"' => .string <$> anyString '"'
  | some '\'' => .string <$> anyString '\''
  | some 't' => do
    if ← Scan.wordIf "true" then pure (.boolean true) else failure
  | some 'f' => do
    if ← Scan.wordIf "false" then pure (.boolean false) else failure
  | _ => do
    match ← Scan.attempt moment with
    | some value => pure value
    | none => signedNumber

end StoryMarkers.Toml

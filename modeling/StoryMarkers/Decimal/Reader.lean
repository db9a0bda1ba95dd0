import StoryMarkers.Decimal.Numeral

set_option autoImplicit false

namespace StoryMarkers.Decimal

/-- A sign and the text after it; a text without a sign is positive. -/
def splitSign : List Char → Bool × List Char
  | '-' :: rest => (true, rest)
  | '+' :: rest => (false, rest)
  | text => (false, text)

/-- The exponent that follows the digits: nothing, or `e`, a sign if any, and digits to the end. -/
def readExponent? : List Char → Option Int
  | [] => some 0
  | c :: rest =>
    if c = 'e' ∨ c = 'E' then
      let (negative, run) := splitSign rest
      if run.isEmpty || !run.all Char.isDigit then none
      else some (if negative then -(ofDigits run : Int) else ofDigits run)
    else none

/-- Digits with at most one point among them, at least one digit, and an exponent if any. -/
def readNumeral? (negative : Bool) (text : List Char) : Option Numeral :=
  let whole := text.takeWhile Char.isDigit
  let rest := text.dropWhile Char.isDigit
  let fraction := match rest with
    | '.' :: after => after.takeWhile Char.isDigit
    | _ => []
  let tail := match rest with
    | '.' :: after => after.dropWhile Char.isDigit
    | _ => rest
  if whole.isEmpty && fraction.isEmpty then none
  else (readExponent? tail).map (Numeral.ofParts negative whole fraction)

/-- A sign if any, then digits or one of the words `inf`, `infinity` and `nan` in any case. -/
def readFloat? {α : Type} [OfScientific α] [Neg α] [Div α] (text : List Char) : Option α :=
  let (negative, rest) := splitSign text
  let word := rest.map Char.toLower
  if word = "inf".toList ∨ word = "infinity".toList then
    some (if negative then -(1.0 / 0.0) else 1.0 / 0.0)
  else if word = "nan".toList then some (0.0 / 0.0)
  else (readNumeral? negative rest).map Numeral.round

end StoryMarkers.Decimal

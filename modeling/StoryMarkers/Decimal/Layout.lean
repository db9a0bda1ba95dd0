import StoryMarkers.Decimal.Shortest

set_option autoImplicit false

namespace StoryMarkers.Decimal

def sign (negative : Bool) : List Char := if negative then ['-'] else []

def zeros (n : Nat) : List Char := List.replicate n '0'

/-- The digits with the point where the exponent puts it, and no more zeros than that takes. -/
def Digits.positional (d : Digits) : List Char :=
  let run := Nat.toDigits 10 d.digits
  match d.exponent with
  | .ofNat e => run ++ zeros e
  | .negSucc e =>
    let places := e + 1
    let padded := zeros (places + 1 - run.length) ++ run
    padded.take (padded.length - places) ++ '.' :: padded.drop (padded.length - places)

/-- The power of ten of the leading digit. -/
def Digits.magnitude (d : Digits) : Int := d.exponent + (Nat.toDigits 10 d.digits).length - 1

/-- One digit, a point if more follow, and an exponent that always has a sign. -/
def Digits.scientific (d : Digits) : List Char :=
  let power := d.magnitude
  let mark := 'e' :: (if power < 0 then '-' else '+') :: Nat.toDigits 10 power.natAbs
  match Nat.toDigits 10 d.digits with
  | [] => mark
  | [lead] => lead :: mark
  | lead :: rest => lead :: '.' :: rest ++ mark

/-- Plain text never has an exponent, and no point when the number is whole. -/
def plain (x : Float) : String :=
  match classOf x with
  | .nan => "NaN"
  | .infinite negative => String.ofList (sign negative ++ "inf".toList)
  | .finite n => String.ofList (sign n.negative ++ (shortest .up n).positional)

/--
Data text shows that a number is a fraction: positional with at least one decimal when the leading
digit stands from `10 ^ (-5)` to `10 ^ 15`, scientific otherwise. It is used for finite numbers.
-/
def dataText (x : Float) : List Char :=
  match classOf x with
  | .finite n =>
    let d := shortest .even n
    let power := d.magnitude
    let whole := if 0 ≤ d.exponent then ".0".toList else []
    sign n.negative ++
      if -5 ≤ power ∧ power ≤ 15 then d.positional ++ whole else d.scientific
  | _ => "null".toList

/-- A quotient rounded to a whole number, a half going to the even neighbour. -/
def roundHalfEven (numerator denominator : Nat) : Nat :=
  let floor := numerator / denominator
  let twice := 2 * (numerator % denominator)
  if twice < denominator then floor
  else if denominator < twice then floor + 1
  else floor + floor % 2

/-- Exactly `places` decimals, rounded from the exact value; a zero keeps its sign. -/
def fixed (places : Nat) (x : Float) : String :=
  match classOf x with
  | .nan => "NaN"
  | .infinite negative => String.ofList (sign negative ++ "inf".toList)
  | .finite n =>
    let numerator := n.significand * wholePower 2 n.exponent * Nat.pow 10 places
    let scaled := roundHalfEven numerator (wholePower 2 (-n.exponent))
    let d : Digits := ⟨scaled, -(places : Int)⟩
    String.ofList (sign n.negative ++ d.positional)

end StoryMarkers.Decimal

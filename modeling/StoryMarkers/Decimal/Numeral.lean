set_option autoImplicit false

namespace StoryMarkers.Decimal

/-- A whole number, with a sign, times a power of ten. -/
structure Numeral where
  negative : Bool
  digits : Nat
  exponent : Int
deriving DecidableEq, Repr

def digitValue (c : Char) : Nat := c.toNat - '0'.toNat

/-- The number a run of decimal digits spells. -/
def ofDigits (run : List Char) : Nat := run.foldl (fun n c => 10 * n + digitValue c) 0

/-- The numeral written as a whole part, a fraction and a power of ten. -/
def Numeral.ofParts (negative : Bool) (whole fraction : List Char) (exponent : Int) : Numeral :=
  ⟨negative, ofDigits (whole ++ fraction), exponent - fraction.length⟩

/-- The count of decimal digits of a positive number. -/
def width (n : Nat) : Nat := (Nat.toDigits 10 n).length

/--
The nearest number of the format, a tie going to the even significand, and infinity when the numeral
is too large for the format. A numeral of more than four hundred digits before the point, or
of as many zeros after it, is already out of reach of every format in use, and is not expanded.
-/
def Numeral.round {α : Type} [OfScientific α] [Neg α] (n : Numeral) : α :=
  let top := n.exponent + width n.digits
  let size : α :=
    if n.digits = 0 ∨ top < -400 then OfScientific.ofScientific 0 false 0
    else if 400 < top then OfScientific.ofScientific 1 false 400
    else match n.exponent with
      | .ofNat e => OfScientific.ofScientific n.digits false e
      | .negSucc e => OfScientific.ofScientific n.digits true (e + 1)
  if n.negative then -size else size

end StoryMarkers.Decimal

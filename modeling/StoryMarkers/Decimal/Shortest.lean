/-!
The shortest decimal text of a binary number.

A finite number is a whole significand times a power of two. The decimals that read back as it
fill an interval around it, whose ends belong to it when the significand is even. The shortest
decimal is the point of the coarsest grid of powers of ten that lies in the interval, and of two
such points the nearer one.
-/

set_option autoImplicit false

namespace StoryMarkers.Decimal

/-- A finite number taken apart: its size is `significand * 2 ^ exponent`. -/
structure Binary where
  negative : Bool
  significand : Nat
  exponent : Int
  /-- The gap below the number is half the gap above it. -/
  narrowBelow : Bool
deriving DecidableEq, Repr

inductive Class where
  | nan
  | infinite (negative : Bool)
  | finite (number : Binary)
deriving DecidableEq, Repr

/-- Takes a bit pattern apart, with `fraction` fraction bits and `scale` exponent bits. -/
def classify (fraction scale bits : Nat) : Class :=
  let negative := bits / Nat.pow 2 (fraction + scale) % 2 == 1
  let biased := bits / Nat.pow 2 fraction % Nat.pow 2 scale
  let low := bits % Nat.pow 2 fraction
  let least : Int := 2 - Nat.pow 2 (scale - 1) - fraction
  if biased = Nat.pow 2 scale - 1 then
    if low = 0 then .infinite negative else .nan
  else if biased = 0 then .finite ⟨negative, low, least, false⟩
  else .finite ⟨negative, Nat.pow 2 fraction + low, least + (biased - 1), low = 0 ∧ 1 < biased⟩

def classOf (x : Float) : Class := classify 52 11 x.toBits.toNat

/-- A whole number times a power of ten. -/
structure Digits where
  digits : Nat
  exponent : Int
deriving DecidableEq, Repr

/-- Which neighbour a decimal halfway between two goes to. -/
inductive Tie where
  | up
  | even
deriving DecidableEq, Repr

/-- A power as a fraction: `base ^ e` over `base ^ (-e)`, one of the two being one. -/
def wholePower (base : Nat) (e : Int) : Nat := base.pow e.toNat

/--
The nearer of the two points of the grid of `10 ^ grid` around the number, if it reads back.
All sizes are in a unit that makes a quarter of the number's last place and the grid whole.
-/
def gridPoint? (tie : Tie) (n : Binary) (grid : Int) : Option Nat :=
  let unit := wholePower 2 (n.exponent - 2) * wholePower 10 (-grid)
  let step := wholePower 10 grid * wholePower 2 (2 - n.exponent)
  let value := 4 * n.significand * unit
  let low := value - (if n.narrowBelow then 1 else 2) * unit
  let high := value + 2 * unit
  let inside (point : Nat) : Bool :=
    if n.significand % 2 = 0 then low ≤ point && point ≤ high else low < point && point < high
  let below := value / step
  let above := below + 1
  let toAbove := above * step - value
  let toBelow := value - below * step
  match inside (below * step), inside (above * step) with
  | false, false => none
  | true, false => some below
  | false, true => some above
  | true, true =>
    if toBelow < toAbove then some below
    else if toAbove < toBelow then some above
    else match tie with
      | .up => some above
      | .even => some (if below % 2 = 0 then below else above)

/-- Searches the grids from `10 ^ grid` downwards, at most `count` of them. -/
def search (tie : Tie) (n : Binary) : Nat → Int → Digits
  | 0, grid => ⟨4 * n.significand * wholePower 2 (n.exponent - 2) * wholePower 10 (-grid) /
      (wholePower 10 grid * wholePower 2 (2 - n.exponent)), grid⟩
  | count + 1, grid =>
    match gridPoint? tie n grid with
    | some point => ⟨point, grid⟩
    | none => search tie n count (grid - 1)

/-- A power of ten above the number: 30103 hundred-thousandths is a little more than `log 2`. -/
def topGrid (n : Binary) : Int :=
  (n.exponent + Nat.log2 n.significand + 1) * 30103 / 100000 + 1

/-- The shortest decimal that reads back; twenty grids reach past the seventeenth digit. -/
def shortest (tie : Tie) (n : Binary) : Digits :=
  if n.significand = 0 then ⟨0, 0⟩ else search tie n 20 (topGrid n)

end StoryMarkers.Decimal
